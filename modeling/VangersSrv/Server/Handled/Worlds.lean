/-
Entering a world, leaving it, and closing a socket.

Entering a world leaves the old one first, and so does closing a socket: each of the two is a
handler inside another.
-/
import VangersSrv.Server.Handled.Objects

namespace VangersSrv

variable {env : Env} {packet : Packet} {c : ClientID} {srv srv' : Server} {r : Reply}

/-! ### Leaving -/

/-- What is retained is what the leave condition does not name. -/
theorem retain_leaveDeletes {vanjects : Vanjects} {bind : UInt8} {deletes : List (I32 × Packet)}
    (hdeletes : leaveDeletes vanjects bind = some deletes) :
    (vanjects.retain fun id _ => id ∉ deletes.map Prod.fst)
      = vanjects.retain fun _ v => !shouldDeleteOnLeaveWorld v bind := by
  apply AList.ext
  refine List.filter_congr fun e he => ?_
  have hkey : e.1 ∈ deletes.map Prod.fst ↔ shouldDeleteOnLeaveWorld e.2 bind = true := by
    rw [mem_leaveDeletes hdeletes]
    have hlookup := AList.mem_entries_iff.mp he
    exact ⟨fun ⟨v, hv, hdel⟩ => by rw [hlookup] at hv; cases hv; exact hdel,
      fun hdel => ⟨e.2, hlookup, hdel⟩⟩
  by_cases hdel : shouldDeleteOnLeaveWorld e.2 bind = true
  · simp [hkey.mpr hdel, hdel]
  · have hnot : e.1 ∉ deletes.map Prod.fst := fun hmem => hdel (hkey.mp hmem)
    simp [hnot, hdel]

/-- What is left after a world was left, and who. -/
theorem Acting.left {key : GameID} {game : Game} {player : Player} {bind : UInt8}
    (hacting : Acting srv c key game player bind) :
    Acting (srv.setGame key (game.left c bind)) c key (game.left c bind)
      { player with world := none } bind := by
  have hfound : (game.left c bind).getPlayer c = some { player with world := none } :=
    Game.getPlayer_modifyPlayer hacting.found rfl
  exact ⟨Server.getGameByClientid_setGame hacting.inGame ⟨_, hfound⟩, hfound, hacting.bound⟩

/-- A world is left for a reason to refuse, or the player leaves it. -/
theorem leaveWorld_cases (h : srv.leaveWorld env c = some r) :
    (∃ err, srv.fail (.leaveWorld err) = some r) ∨
      ∃ key game player bind world deletes playersWorld, Acting srv c key game player bind ∧
        player.world = some world ∧ leaveDeletes game.vanjects bind = some deletes ∧
        Packet.new .playersWorld [bind, 0] = some playersWorld ∧
        r = {
          srv := srv.setGame key (game.left c bind)
          sent := (env.drain deletes).flatMap (fun e =>
              (srv.setGame key (game.left c bind)).notifyGame c e.2)
            ++ (srv.setGame key (game.left c bind)).notifyGame c playersWorld
          result := .ok .complete } := by
  unfold Server.leaveWorld at h
  split at h
  · exact Or.inl ⟨_, h⟩
  rename_i key game hgame
  simp only [Option.bind_eq_bind, Option.bind_eq_some_iff] at h
  obtain ⟨player, hplayer, h⟩ := h
  split at h
  · exact Or.inl ⟨_, h⟩
  rename_i bind hbind
  split at h
  · exact Or.inl ⟨_, h⟩
  rename_i world hworld
  simp only [Option.bind_eq_some_iff] at h
  obtain ⟨deletes, hdeletes, playersWorld, hpacket, h⟩ := h
  rw [retain_leaveDeletes hdeletes] at h
  exact Or.inr ⟨key, game, player, bind, world, deletes, playersWorld, ⟨hgame, hplayer, hbind⟩,
    hworld, hdeletes, hpacket, Server.complete_eq_some h⟩

/-- Leaving a world, when it succeeds, is the prelude of that name. -/
theorem leaveWorld_ok {ok : OnUpdateOk}
    (haction : packet.action ∈ [Action.leaveWorld, .setWorld, .closeSocket])
    (hother : packet.action = .setWorld → ∀ key game player world,
      srv.getGameByClientid c = some (key, game) → game.getPlayer c = some player →
        player.world = some world → packet.data[0]? ≠ some world.id)
    (h : srv.leaveWorld env c = some r) (hok : r.result = .ok ok) :
    Prelude env packet c srv r.sent r.srv := by
  rcases leaveWorld_cases h with ⟨err, hfail⟩ | ⟨key, game, player, bind, world, deletes,
    playersWorld, hacting, hworld, hdeletes, hpacket, rfl⟩
  · exact absurd hok (Server.fail_ne_ok hfail)
  · exact .left haction
      (fun hset => hother hset key game player world hacting.inGame hacting.found hworld)
      hacting hworld hdeletes (quiet_new hpacket (by decide))

/-- Leaving a world, when it fails, does nothing. -/
theorem leaveWorld_error {err : OnUpdateError} (h : srv.leaveWorld env c = some r)
    (herr : r.result = .error err) : r.srv = srv ∧ r.sent = [] := by
  rcases leaveWorld_cases h with ⟨err', hfail⟩ | ⟨_, _, _, _, _, _, _, -, -, -, -, rfl⟩
  · obtain rfl := Server.fail_eq_some hfail
    exact ⟨rfl, rfl⟩
  · cases herr

/-- A player that is in a world leaves it. -/
theorem leaveWorld_acting {key : GameID} {game : Game} {player : Player} {bind : UInt8}
    (hacting : Acting srv c key game player bind) (h : srv.leaveWorld env c = some r) :
    (player.world = none ∧ r.result = .error (.leaveWorld (.worldEmpty c)) ∧ r.srv = srv) ∨
      (player.world ≠ none ∧ r.result = .ok .complete ∧
        r.srv = srv.setGame key (game.left c bind)) := by
  unfold Server.leaveWorld at h
  simp only [hacting.inGame, hacting.found, hacting.bound, Option.bind_eq_bind,
    Option.bind_some] at h
  split at h
  · rename_i hworld
    obtain rfl := Server.fail_eq_some h
    exact Or.inl ⟨hworld, rfl, rfl⟩
  · rename_i hworld
    simp only [Option.bind_eq_some_iff] at h
    obtain ⟨deletes, hdeletes, playersWorld, -, h⟩ := h
    rw [retain_leaveDeletes hdeletes] at h
    obtain rfl := Server.complete_eq_some h
    exact Or.inr ⟨by simp [hworld], rfl, rfl⟩

theorem leaveWorld_result (h : srv.leaveWorld env c = some r) : QuietResult r.result := by
  rcases leaveWorld_cases h with ⟨err, hfail⟩ | ⟨_, _, _, _, _, _, _, -, -, -, -, rfl⟩
  · exact (show Sound env Packet.default c srv r from Sound.fail hfail).result
  · trivial

/-- A world that is not left is as it was. -/
theorem leaveWorld_failed {left : Reply} {err : OnUpdateError}
    (haction : packet.action ∉ objectActions) (h : srv.leaveWorld env c = some left)
    (hres : left.result = .error err) : Sound env packet c srv left := by
  obtain ⟨hsrv, hsent⟩ := leaveWorld_error h hres
  refine ⟨?_, leaveWorld_result h, fun _ _ ha => absurd ha haction⟩
  rw [hsrv, hsent]
  exact .one (.quiet (by simp))

theorem leaveWorld_sound (haction : packet.action = .leaveWorld)
    (h : srv.leaveWorld env c = some r) : Sound env packet c srv r := by
  cases hres : r.result with
  | ok ok =>
      exact Sound.ofOk hres (leaveWorld_result h)
        (.one (.prelude (leaveWorld_ok (by simp [haction]) (by simp [haction]) h hres)))
  | error err => exact leaveWorld_failed (by simp [haction, objectActions]) h hres

theorem removePlayer_eq {key : GameID} {game : Game}
    (hgame : srv.getGameByClientid c = some (key, game)) (h : srv.removePlayer c = some srv') :
    ((game.without c).players = [] ∧
      srv' = { srv with games := (srv.games.replace key (game.without c)).erase game.id }) ∨
    ((game.without c).players ≠ [] ∧ srv' = srv.setGame key (game.without c)) := by
  unfold Server.removePlayer at h
  rw [hgame] at h
  simp only [Option.bind_eq_bind, Option.bind_some] at h
  split at h
  · rename_i hempty
    exact Or.inl ⟨hempty, (Option.some.inj h).symm⟩
  · rename_i hothers
    exact Or.inr ⟨hothers, (Option.some.inj h).symm⟩

/-- Finishing a player and then dropping it is closing its socket. -/
theorem without_finish {game : Game} {player : Player} (hplayer : game.getPlayer c = some player) :
    (game.finish c (finishPlayer player)).without c = game.closed c player := by
  have hfilter : (game.modifyPlayer c fun _ => finishPlayer player).players.filter
        (fun p => p.clientId ≠ c) = game.players.filter fun p => p.clientId ≠ c := by
    refine List.filter_modifyFirst fun p hp => ?_
    have hfinish : (finishPlayer player).clientId = c :=
      show player.clientId = c from Game.getPlayer_clientId hplayer
    have hp' : p.clientId = c := by simpa using List.find?_some hp
    simp [hp', hfinish]
  simp only [Game.without, Game.finish, Game.closed, hfilter]
  rfl

/-- Closing after the world was left fails for a connection without a player, and removes
the player of one that has one. -/
theorem closeLeft_cases (h : srv.closeLeft c = some r) :
    ((∀ key game player bind, ¬ Acting srv c key game player bind) ∧
      (∃ err, r.result = .error err) ∧ r.srv = srv ∧ r.sent = []) ∨
    ∃ key game player bind, Acting srv c key game player bind ∧ r.result = .ok .complete ∧
      (∀ s ∈ r.sent, s.packet.Quiet) ∧
      (((game.closed c player).players = [] ∧
          r.srv = { srv with games := (srv.games.replace key (game.closed c player)).erase game.id }) ∨
        ((game.closed c player).players ≠ [] ∧ r.srv = srv.setGame key (game.closed c player))) := by
  unfold Server.closeLeft at h
  split at h
  · rename_i hnone
    obtain rfl := Server.fail_eq_some h
    refine Or.inl ⟨fun key game player bind hacting => ?_, ⟨_, rfl⟩, rfl, rfl⟩
    rw [hacting.inGame] at hnone
    cases hnone
  rename_i key game hgame
  simp only [Option.bind_eq_bind, Option.bind_eq_some_iff] at h
  obtain ⟨player, hplayer, h⟩ := h
  split at h
  · rename_i hunbound
    obtain rfl := Server.fail_eq_some h
    refine Or.inl ⟨fun key' game' player' bind hacting => ?_, ⟨_, rfl⟩, rfl, rfl⟩
    have hgame' := hacting.inGame.symm.trans hgame
    simp only [Option.some.injEq, Prod.mk.injEq] at hgame'
    obtain ⟨rfl, rfl⟩ := hgame'
    rw [← Option.some.inj (hacting.found.symm.trans hplayer), hacting.bound] at hunbound
    cases hunbound
  rename_i bind hbind
  simp only [Option.bind_eq_some_iff] at h
  obtain ⟨sent, hsent, srv₂, hremove, h⟩ := h
  obtain rfl := Server.complete_eq_some h
  refine Or.inr ⟨key, game, player, bind, ⟨hgame, hplayer, hbind⟩, rfl, ?_, ?_⟩
  · show ∀ s ∈ sent, s.packet.Quiet
    unfold Server.announceFinished at hsent
    split at hsent
    · obtain ⟨finished, hfinished, rfl⟩ := Option.map_eq_some_iff.mp hsent
      exact quiet_notify (quiet_new hfinished (by decide))
    · simp only [Option.some.injEq] at hsent
      subst hsent
      simp
  -- the game written back still has the player, so the second lookup finds it
  have hplayer₂ : (game.finish c (finishPlayer player)).getPlayer c = some (finishPlayer player) :=
    Game.getPlayer_modifyPlayer hplayer rfl
  have hgame₂ := Server.getGameByClientid_setGame hgame ⟨_, hplayer₂⟩
  have hlookup := Server.getGameByClientid_lookup hgame
  rcases removePlayer_eq hgame₂ hremove with ⟨hempty, hsrv⟩ | ⟨hothers, hsrv⟩
  · rw [without_finish hplayer] at hempty hsrv
    rw [show (srv.setGame key (game.finish c (finishPlayer player))).games
        = srv.games.replace key (game.finish c (finishPlayer player)) from rfl,
      AList.replace_replace _ _ hlookup] at hsrv
    exact Or.inl ⟨hempty, hsrv⟩
  · rw [without_finish hplayer] at hothers hsrv
    rw [Server.setGame_setGame hlookup] at hsrv
    exact Or.inr ⟨hothers, hsrv⟩

theorem closeLeft_sound (env : Env) (haction : packet.action = .closeSocket)
    (h : srv.closeLeft c = some r) :
    (∃ err, r.result = .error err ∧ r.srv = srv ∧ r.sent = []) ∨
      (r.result = .ok .complete ∧ Effect env packet c srv r.sent r.srv) := by
  rcases closeLeft_cases h with ⟨-, ⟨err, herr⟩, hsrv, hsent⟩ |
    ⟨key, game, player, bind, hacting, hres, hquiet, ⟨hempty, hsrv⟩ | ⟨hothers, hsrv⟩⟩
  · exact Or.inl ⟨err, herr, hsrv, hsent⟩
  · rw [hsrv]
    exact Or.inr ⟨hres, .closedLast haction hacting hempty hquiet⟩
  · rw [hsrv]
    exact Or.inr ⟨hres, .closed haction hacting hothers hquiet⟩

/-- A socket is closed after the world was left, unless leaving fails for another reason than
that there is none. -/
theorem closeSocket_cases (h : srv.closeSocket env c = some r) :
    ∃ left, srv.leaveWorld env c = some left ∧
      ((∃ closed, left.srv.closeLeft c = some closed ∧
          r = { closed with sent := left.sent ++ closed.sent }) ∨
        (r = left ∧ ∃ err, left.result = .error err ∧ ∀ id, err ≠ .leaveWorld (.worldEmpty id))) := by
  unfold Server.closeSocket at h
  simp only [Option.bind_eq_bind, Option.bind_eq_some_iff] at h
  obtain ⟨left, hleft, h⟩ := h
  refine ⟨left, hleft, ?_⟩
  split at h
  · simp only [Option.bind_eq_some_iff, Option.some.injEq] at h
    obtain ⟨closed, hclosed, rfl⟩ := h
    exact Or.inl ⟨closed, hclosed, rfl⟩
  · simp only [Option.bind_eq_some_iff, Option.some.injEq] at h
    obtain ⟨closed, hclosed, rfl⟩ := h
    exact Or.inl ⟨closed, hclosed, rfl⟩
  · rename_i err hother hres
    obtain rfl := Option.some.inj h
    exact Or.inr ⟨by rw [← hres], err, hres, hother⟩

theorem closeSocket_sound (haction : packet.action = .closeSocket)
    (h : srv.closeSocket env c = some r) : Sound env packet c srv r := by
  rcases closeSocket_cases h with ⟨left, hleft, ⟨closed, hclosed, rfl⟩ | ⟨rfl, err, hres, -⟩⟩
  · cases hres : left.result with
    | ok ok =>
        have hprelude : Prelude env packet c srv left.sent left.srv :=
          leaveWorld_ok (by simp [haction]) (by simp [haction]) hleft hres
        rcases closeLeft_sound env haction hclosed with
          ⟨err, hres, hsrv, hsent⟩ | ⟨hres, heffect⟩
        · refine ⟨?_, by simp [hres, QuietResult], by simp [haction, objectActions]⟩
          show Handled env packet c srv (left.sent ++ closed.sent) closed.srv
          rw [hsrv, hsent, List.append_nil]
          exact .one (.prelude hprelude)
        · exact ⟨.two (by simp [haction]) hprelude heffect, by simp [hres, QuietResult],
            by simp [haction, objectActions]⟩
    | error err =>
        obtain ⟨hsrv, hsent⟩ := leaveWorld_error hleft hres
        rw [hsrv] at hclosed
        rw [hsent, List.nil_append]
        rcases closeLeft_sound env haction hclosed with
          ⟨err, hres, hsrv, hsent⟩ | ⟨hres, heffect⟩
        · refine ⟨?_, by simp [hres, QuietResult], by simp [haction, objectActions]⟩
          show Handled env packet c srv closed.sent closed.srv
          rw [hsrv, hsent]
          exact .one (.quiet (by simp))
        · exact ⟨.one heffect, by simp [hres, QuietResult], by simp [haction, objectActions]⟩
  · exact leaveWorld_failed (by simp [haction, objectActions]) hleft hres

/-- Closing a socket removes the players of the connection from its game, and the game with
the last of them.  What goes with its player goes only when the player is in a world. -/
theorem closeSocket_closes {key : GameID} {game : Game} {player : Player} {bind : UInt8}
    (hacting : Acting srv c key game player bind) (h : srv.closeSocket env c = some r) :
    r.result = .ok .complete ∧
      ∃ game', game'.players = game.players.filter (fun p => p.clientId ≠ c) ∧
        (∀ id v, game'.vanjects.lookup id = some v ↔ game.vanjects.lookup id = some v ∧
          (player.world ≠ none → shouldDeleteOnLeaveWorld v bind = false)) ∧
        ((game'.players = [] ∧
            r.srv = { srv with games := (srv.games.replace key game').erase game.id }) ∨
          (game'.players ≠ [] ∧ r.srv = srv.setGame key game')) := by
  have hlookup := Server.getGameByClientid_lookup hacting.inGame
  obtain ⟨left, hleft, hcases⟩ := closeSocket_cases h
  rcases leaveWorld_acting hacting hleft with ⟨hworld, hres, hsrv⟩ | ⟨hworld, hres, hsrv⟩
  · rcases hcases with ⟨closed, hclosed, rfl⟩ | ⟨-, err, herr, hother⟩
    swap
    · exact absurd (Except.error.inj (herr.symm.trans hres)) (hother c)
    rw [hsrv] at hclosed
    rcases closeLeft_cases hclosed with
      ⟨hnone, -⟩ | ⟨key', game', player', bind', hacting', hok, -, hends⟩
    · exact absurd hacting (hnone key game player bind)
    · obtain ⟨rfl, rfl, rfl, rfl⟩ := hacting.unique hacting'
      exact ⟨hok, game.closed c player, rfl, fun id v => by simp [hworld, Game.closed, Game.without],
        hends⟩
  · rcases hcases with ⟨closed, hclosed, rfl⟩ | ⟨-, err, herr, -⟩
    swap
    · cases herr.symm.trans hres
    rw [hsrv] at hclosed
    have hacting₂ := hacting.left
    rcases closeLeft_cases hclosed with
      ⟨hnone, -⟩ | ⟨key', game', player', bind', hacting', hok, -, hends⟩
    · exact absurd hacting₂ (hnone key _ _ bind)
    · obtain ⟨rfl, rfl, rfl, rfl⟩ := hacting₂.unique hacting'
      refine ⟨hok, (game.left c bind).closed c { player with world := none }, ?_, fun id v => ?_, ?_⟩
      · refine List.filter_modifyFirst fun p hp => ?_
        have hp' : p.clientId = c := by simpa using List.find?_some hp
        simp [hp']
      · show (game.left c bind).vanjects.lookup id = some v ↔ _
        simp only [Game.left, AList.lookup_retain_eq_some, Bool.not_eq_true', hworld, ne_eq,
          not_false_eq_true, true_implies]
      · rw [Server.setGame_setGame hlookup] at hends
        rw [show (srv.setGame key (game.left c bind)).games
          = srv.games.replace key (game.left c bind) from rfl, AList.replace_replace _ _ hlookup] at hends
        exact hends

/-- Nothing is closed for a connection without a player. -/
theorem closeSocket_none (hnone : srv.getGameByClientid c = none)
    (h : srv.closeSocket env c = some r) : r.srv = srv := by
  have hleave : srv.leaveWorld env c = srv.fail (.leaveWorld (.playerNotFound c)) := by
    simp [Server.leaveWorld, hnone]
  simp only [Server.closeSocket, hleave, Server.fail, Option.bind_eq_bind, Option.bind_some,
    Option.some.injEq] at h
  rw [← h]

/-! ### Closing never panics -/

theorem leaveWorld_total : ∃ r, srv.leaveWorld env c = some r := by
  unfold Server.leaveWorld
  split
  · exact ⟨_, rfl⟩
  rename_i key game hgame
  obtain ⟨player, hplayer⟩ := Server.getGameByClientid_getPlayer hgame
  simp only [hplayer, Option.bind_eq_bind, Option.bind_some]
  split
  · exact ⟨_, rfl⟩
  rename_i bind hbind
  split
  · exact ⟨_, rfl⟩
  -- a delete packet has nine bytes of data
  have hdeletes : ∃ deletes, leaveDeletes game.vanjects bind = some deletes := by
    refine mapM_isSome fun e _ => ?_
    obtain ⟨p, hp⟩ : ∃ p, Packet.new .deleteObject
        (toLeBytes32 e.1 ++ [bind] ++ toLeBytes32 e.2.time) = some p :=
      Packet.new_isSome _ (by simp [i16Max])
    exact ⟨(e.1, p), by simp only [hp, Option.bind_eq_bind, Option.bind_some]⟩
  obtain ⟨deletes, hdeletes⟩ := hdeletes
  obtain ⟨playersWorld, hp⟩ : ∃ p, Packet.new .playersWorld [bind, 0] = some p :=
    Packet.new_isSome _ (by simp [i16Max])
  simp only [hdeletes, hp, Option.bind_some]
  exact ⟨_, rfl⟩

theorem closeLeft_total : ∃ r, srv.closeLeft c = some r := by
  unfold Server.closeLeft
  split
  · exact ⟨_, rfl⟩
  rename_i key game hgame
  obtain ⟨player, hplayer⟩ := Server.getGameByClientid_getPlayer hgame
  simp only [hplayer, Option.bind_eq_bind, Option.bind_some]
  split
  · exact ⟨_, rfl⟩
  rename_i bind hbind
  have hplayer₂ : (game.finish c (finishPlayer player)).getPlayer c = some (finishPlayer player) :=
    Game.getPlayer_modifyPlayer hplayer rfl
  have hgame₂ := Server.getGameByClientid_setGame hgame ⟨_, hplayer₂⟩
  have hremove : ∃ srv', (srv.setGame key (game.finish c (finishPlayer player))).removePlayer c
      = some srv' := by
    unfold Server.removePlayer
    simp only [hgame₂, Option.bind_eq_bind, Option.bind_some]
    split <;> exact ⟨_, rfl⟩
  have hannounce : ∃ sent, (srv.setGame key
      (game.finish c (finishPlayer player))).announceFinished c player bind = some sent := by
    obtain ⟨p, hp⟩ : ∃ p, Packet.new .playersStatus [bind, Status.finished.toU8] = some p :=
      Packet.new_isSome _ (by simp [i16Max])
    unfold Server.announceFinished
    rw [hp]
    split <;> exact ⟨_, rfl⟩
  obtain ⟨srv', hremove⟩ := hremove
  obtain ⟨sent, hannounce⟩ := hannounce
  simp only [hremove, hannounce, Option.bind_some]
  exact ⟨_, rfl⟩

theorem closeSocket_total : ∃ r, srv.closeSocket env c = some r := by
  obtain ⟨left, hleft⟩ : ∃ left, srv.leaveWorld env c = some left := leaveWorld_total
  obtain ⟨closed, hclosed⟩ : ∃ closed, left.srv.closeLeft c = some closed := closeLeft_total
  unfold Server.closeSocket
  simp only [hleft, Option.bind_eq_bind, Option.bind_some]
  split
  · simp only [hclosed, Option.bind_some]
    exact ⟨_, rfl⟩
  · simp only [hclosed, Option.bind_some]
    exact ⟨_, rfl⟩
  · exact ⟨_, rfl⟩

/-- A tick always gets to its end. -/
theorem closeAll_total {ids : List ClientID} : ∃ out, srv.closeAll env ids = some out := by
  induction ids generalizing srv with
  | nil => exact ⟨_, rfl⟩
  | cons c rest ih =>
      obtain ⟨closed, hclosed⟩ : ∃ closed, srv.closeSocket env c = some closed := closeSocket_total
      obtain ⟨⟨last, sent⟩, hrest⟩ : ∃ out, closed.srv.closeAll env rest = some out := ih
      exact ⟨(last, closed.sent ++ sent), by
        simp only [Server.closeAll, hclosed, hrest, Option.bind_eq_bind, Option.bind_some]⟩

/-- The world found or made is one of the game's worlds, and nothing else changed. -/
theorem findOrCreateWorld_ok {game game' : Game} {worldId : UInt8} {ySize : I16} {world : World}
    {worldStatus : UInt8}
    (h : findOrCreateWorld game worldId ySize = .ok (game', world, worldStatus)) :
    world.id = worldId ∧ game' = { game with worlds := game'.worlds } ∧
      ((game'.worlds = game.worlds ∧ world ∈ game.worlds) ∨
        (game'.worlds = game.worlds ++ [world] ∧ ∀ w ∈ game.worlds, w.id ≠ world.id)) := by
  unfold findOrCreateWorld at h
  split at h
  · rename_i found hfind
    split at h
    · simp at h
    · simp only [Except.ok.injEq, Prod.mk.injEq] at h
      obtain ⟨rfl, rfl, rfl⟩ := h
      exact ⟨by simpa using List.find?_some hfind, rfl,
        Or.inl ⟨rfl, List.mem_of_find?_eq_some hfind⟩⟩
  · rename_i hnone
    simp only [Except.ok.injEq, Prod.mk.injEq] at h
    obtain ⟨rfl, rfl, rfl⟩ := h
    exact ⟨rfl, rfl, Or.inr ⟨rfl, by simpa using hnone⟩⟩

/-- The game with the world has the player and the world. -/
theorem findOrCreateWorld_finds {game game' : Game} {worldId : UInt8} {ySize : I16} {world : World}
    {worldStatus : UInt8} {player : Player}
    (h : findOrCreateWorld game worldId ySize = .ok (game', world, worldStatus))
    (hplayer : game.getPlayer c = some player) :
    game'.getPlayer c = some player ∧ world ∈ game'.worlds := by
  obtain ⟨-, hgame', hworlds⟩ := findOrCreateWorld_ok h
  constructor
  · rw [hgame']
    exact hplayer
  · rcases hworlds with ⟨heq, hin⟩ | ⟨heq, -⟩
    · rw [heq]
      exact hin
    · rw [heq]
      exact List.mem_append_right _ List.mem_cons_self

/-- A world in the list is the one its id finds, when the ids are told apart. -/
theorem placePlayer_eq {game game' : Game} {world : World} {player : Player} {changed : Bool}
    (hplayer : game.getPlayer c = some player)
    (h : game.placePlayer c world = some (game', changed)) :
    ∃ w, game.worlds.find? (fun w => w.id = world.id) = some w ∧
      game' = game.modifyPlayer c fun p => { p with world := some w, status := .gaming } := by
  unfold Game.placePlayer at h
  simp only [hplayer, Option.bind_eq_bind, Option.bind_some, Option.bind_eq_some_iff] at h
  obtain ⟨w, hw, h⟩ := h
  refine ⟨w, hw, ?_⟩
  split at h
  · simp only [Option.some.injEq, Prod.mk.injEq] at h
    exact h.1.symm
  · rename_i hgaming
    simp only [Option.some.injEq, Prod.mk.injEq] at h
    rw [← h.1, Game.modifyPlayer_const hplayer, eq_comm, Game.modifyPlayer_const hplayer]
    have hstatus : player.status = .gaming := by simpa using hgaming
    rw [← hstatus]

theorem placePlayer_changed {game game' : Game} {world : World} {player : Player} {changed : Bool}
    (hplayer : game.getPlayer c = some player)
    (h : game.placePlayer c world = some (game', changed)) :
    changed = decide (player.status ≠ .gaming) := by
  unfold Game.placePlayer at h
  simp only [hplayer, Option.bind_eq_bind, Option.bind_some, Option.bind_eq_some_iff] at h
  obtain ⟨w, -, h⟩ := h
  split at h
  · rename_i hstatus
    rw [← (Prod.mk.inj (Option.some.inj h)).2]
    simpa using hstatus
  · rename_i hstatus
    rw [← (Prod.mk.inj (Option.some.inj h)).2]
    simpa using hstatus

/-- The ways out of entering a world: it is refused, which may leave the new world behind, or the
player is in the world it asked for and is sent the snapshot.  Its status is told if it changed. -/
theorem enterWorld_outcome {worldId : UInt8} {ySize : I16}
    (h : srv.enterWorld packet c worldId ySize = some r) :
    (∃ err s, Server.fail s (.setWorld err) = some r ∧ (s = srv ∨ ∃ key game player world,
      srv.getGameByClientid c = some (key, game) ∧ game.getPlayer c = some player ∧
        player.bindId = none ∧ (∀ x ∈ game.worlds, x.id ≠ world.id) ∧
        s = srv.setGame key { game with worlds := game.worlds ++ [world] })) ∨
      ∃ key game player bind worlds world snapshot changed status playersWorld worldStatus response
          snapshotBegin playersSnapshot snapshotEnd,
        Acting srv c key game player bind ∧ world.id = worldId ∧
        ((worlds = game.worlds ∧ world ∈ game.worlds) ∨
          (worlds = game.worlds ++ [world] ∧ ∀ x ∈ game.worlds, x.id ≠ world.id)) ∧
        (worldSnapshot game.vanjects worldId bind).mapM statePacket = some snapshot ∧
        Packet.new .playersStatus [bind, Status.gaming.toU8] = some status ∧
        Packet.new .playersWorld [bind, worldId] = some playersWorld ∧
        packet.createAnswer [worldId, worldStatus] = some response ∧
        Packet.new .worldSnapshotBegin [worldId] = some snapshotBegin ∧
        totalPlayersDataPacket (game.entered c worlds world) = some playersSnapshot ∧
        Packet.new .worldSnapshotEnd [worldId] = some snapshotEnd ∧
        changed = decide (player.status ≠ .gaming) ∧
        r = {
          srv := srv.setGame key (game.entered c worlds world)
          sent := (if changed = true then
                (srv.setGame key (game.entered c worlds world)).notifyAll c status
              else [])
            ++ (srv.setGame key (game.entered c worlds world)).notifyGame c playersWorld
            ++ ([response, snapshotBegin, playersSnapshot] ++ snapshot ++ [snapshotEnd]).flatMap
                ((srv.setGame key (game.entered c worlds world)).notifyPlayer c)
          result := .ok .complete } := by
  unfold Server.enterWorld at h
  split at h
  · exact Or.inl ⟨_, _, h, Or.inl rfl⟩
  rename_i key game hgame
  split at h
  · exact Or.inl ⟨_, _, h, Or.inl rfl⟩
  rename_i game' world worldStatus hworld
  obtain ⟨rfl, hgame', hworlds⟩ := findOrCreateWorld_ok hworld
  simp only [Option.bind_eq_bind, Option.bind_eq_some_iff] at h
  obtain ⟨player, hplayer', h⟩ := h
  have hplayer : game.getPlayer c = some player := by
    rw [hgame'] at hplayer'
    exact hplayer'
  split at h
  · rename_i hunbound
    refine Or.inl ⟨_, _, h, ?_⟩
    rcases hworlds with ⟨hsame, -⟩ | ⟨hmade, hnew⟩
    · rw [hgame', hsame, setGame_self (Server.getGameByClientid_lookup hgame)]
      exact Or.inl rfl
    · rw [hgame', hmade]
      exact Or.inr ⟨key, game, player, world, hgame, hplayer, hunbound, hnew, rfl⟩
  rename_i bind hbind
  simp only [Option.bind_eq_some_iff] at h
  obtain ⟨snapshot, hsnapshot, ⟨game'', changed⟩, hplace, status, hstatus, playersWorld, hpw,
    response, hresponse, snapshotBegin, hbegin, playersSnapshot, hplayers, snapshotEnd, hend, h⟩ := h
  have hchanged := placePlayer_changed hplayer' hplace
  obtain ⟨w, hfind, rfl⟩ := placePlayer_eq hplayer' hplace
  obtain rfl := Server.complete_eq_some h
  have hvan : game'.vanjects = game.vanjects := by rw [hgame']
  rw [hvan] at hsnapshot
  -- the world the player is placed in has the requested id, whichever copy the list gives
  have hwid : w.id = world.id := by simpa using List.find?_some hfind
  have hwmem : w ∈ game'.worlds := List.mem_of_find?_eq_some hfind
  have hworlds' : (game'.worlds = game.worlds ∧ w ∈ game.worlds) ∨
      (game'.worlds = game.worlds ++ [w] ∧ ∀ x ∈ game.worlds, x.id ≠ w.id) := by
    rcases hworlds with ⟨hsame, -⟩ | ⟨hmade, hnew⟩
    · exact Or.inl ⟨hsame, by rw [← hsame]; exact hwmem⟩
    · right
      rw [hmade] at hwmem
      rcases List.mem_append.mp hwmem with hold | hlast
      · exact absurd hwid (hnew w hold)
      · rw [List.mem_singleton.mp hlast]
        exact ⟨hmade, hnew⟩
  have hentered : game'.modifyPlayer c (fun p => { p with world := some w, status := .gaming })
      = game.entered c game'.worlds w := by
    rw [hgame']
    rfl
  rw [hentered] at hplayers ⊢
  exact Or.inr ⟨key, game, player, bind, game'.worlds, w, snapshot, changed, status, playersWorld,
    worldStatus, response, snapshotBegin, playersSnapshot, snapshotEnd, ⟨hgame, hplayer, hbind⟩,
    hwid, hworlds', hsnapshot, hstatus, hpw, hresponse, hbegin, hplayers, hend, hchanged, rfl⟩

/-- The ways out, without the reason why the status is told. -/
theorem enterWorld_cases {worldId : UInt8} {ySize : I16}
    (h : srv.enterWorld packet c worldId ySize = some r) :
    (∃ err s, Server.fail s (.setWorld err) = some r ∧ (s = srv ∨ ∃ key game player world,
      srv.getGameByClientid c = some (key, game) ∧ game.getPlayer c = some player ∧
        player.bindId = none ∧ (∀ x ∈ game.worlds, x.id ≠ world.id) ∧
        s = srv.setGame key { game with worlds := game.worlds ++ [world] })) ∨
      ∃ key game player bind worlds world snapshot changed status playersWorld worldStatus response
          snapshotBegin playersSnapshot snapshotEnd,
        Acting srv c key game player bind ∧ world.id = worldId ∧
        ((worlds = game.worlds ∧ world ∈ game.worlds) ∨
          (worlds = game.worlds ++ [world] ∧ ∀ x ∈ game.worlds, x.id ≠ world.id)) ∧
        (worldSnapshot game.vanjects worldId bind).mapM statePacket = some snapshot ∧
        Packet.new .playersStatus [bind, Status.gaming.toU8] = some status ∧
        Packet.new .playersWorld [bind, worldId] = some playersWorld ∧
        packet.createAnswer [worldId, worldStatus] = some response ∧
        Packet.new .worldSnapshotBegin [worldId] = some snapshotBegin ∧
        totalPlayersDataPacket (game.entered c worlds world) = some playersSnapshot ∧
        Packet.new .worldSnapshotEnd [worldId] = some snapshotEnd ∧
        r = {
          srv := srv.setGame key (game.entered c worlds world)
          sent := (if changed = true then
                (srv.setGame key (game.entered c worlds world)).notifyAll c status
              else [])
            ++ (srv.setGame key (game.entered c worlds world)).notifyGame c playersWorld
            ++ ([response, snapshotBegin, playersSnapshot] ++ snapshot ++ [snapshotEnd]).flatMap
                ((srv.setGame key (game.entered c worlds world)).notifyPlayer c)
          result := .ok .complete } := by
  rcases enterWorld_outcome h with hrefused | ⟨key, game, player, bind, worlds, world, snapshot, changed,
    status, playersWorld, worldStatus, response, snapshotBegin, playersSnapshot, snapshotEnd, hacting,
    hid, hworlds, hsnapshot, hstatus, hpw, hresponse, hbegin, hplayers, hend, -, hr⟩
  · exact Or.inl hrefused
  · exact Or.inr ⟨key, game, player, bind, worlds, world, snapshot, changed, status, playersWorld,
      worldStatus, response, snapshotBegin, playersSnapshot, snapshotEnd, hacting, hid, hworlds,
      hsnapshot, hstatus, hpw, hresponse, hbegin, hplayers, hend, hr⟩

theorem enterWorld_sound (env : Env) {worldId : UInt8} {ySize : I16} (haction : packet.action = .setWorld)
    (hdata : packet.data[0]? = some worldId)
    (h : srv.enterWorld packet c worldId ySize = some r) :
    (∃ err, r.result = .error err) ∧ r.sent = [] ∧ Effect env packet c srv [] r.srv ∨
      r.result = .ok .complete ∧ Effect env packet c srv r.sent r.srv := by
  rcases enterWorld_cases h with ⟨err, s, hfail, hs⟩ |
    ⟨key, game, player, bind, worlds, world, snapshot, changed, status, playersWorld, worldStatus,
      response, snapshotBegin, playersSnapshot, snapshotEnd, hacting, rfl, hworlds, hsnapshot,
      hstatus, hpw, hresponse, hbegin, hplayers, hend, rfl⟩
  · obtain rfl := Server.fail_eq_some hfail
    refine Or.inl ⟨⟨.setWorld err, rfl⟩, rfl, ?_⟩
    rcases hs with rfl | ⟨key, game, player, world, hgame, hplayer, hunbound, hnew, rfl⟩
    · exact .quiet (by simp)
    · exact .worldMade hgame hplayer hunbound hnew
  refine Or.inr ⟨rfl, .entered haction hdata hacting hworlds hsnapshot ?_
    (Sound.quiet_createAnswer hresponse) (Packet.new_eq_some hbegin).1
    (quiet_new hplayers (by decide)) (quiet_new hend (by decide))⟩
  intro s hs
  rcases List.mem_append.mp hs with hs | hs
  · split at hs
    · exact quiet_notify (quiet_new hstatus (by decide)) s hs
    · simp at hs
  · exact quiet_notify (quiet_new hpw (by decide)) s hs

/-- A world is entered at once, or after another one was left. -/
theorem setWorld_cases (h : srv.setWorld env packet c = some r) :
    ∃ worldId ySize, packet.data[0]? = some worldId ∧
      (slice packet.data 1 3).bind sliceLeToI16 = some ySize ∧
      ((srv.needsLeaveWorld c worldId = false ∧ srv.enterWorld packet c worldId ySize = some r) ∨
        (srv.needsLeaveWorld c worldId = true ∧ ∃ left, srv.leaveWorld env c = some left ∧
          ((r = left ∧ ∃ err, left.result = .error err) ∨
            ∃ ok entered, left.result = .ok ok ∧
              left.srv.enterWorld packet c worldId ySize = some entered ∧
              r = { entered with sent := left.sent ++ entered.sent }))) := by
  unfold Server.setWorld at h
  simp only [Option.bind_eq_bind, Option.bind_eq_some_iff] at h
  obtain ⟨worldId, hdata, size, hsize, ySize, hySize, h⟩ := h
  refine ⟨worldId, ySize, hdata, Option.bind_eq_some_iff.mpr ⟨size, hsize, hySize⟩, ?_⟩
  split at h
  · rename_i hneeds
    simp only [Option.bind_eq_some_iff] at h
    obtain ⟨left, hleft, h⟩ := h
    refine Or.inr ⟨hneeds, left, hleft, ?_⟩
    split at h
    · rename_i err hres
      obtain rfl := Option.some.inj h
      exact Or.inl ⟨by rw [← hres], err, hres⟩
    · rename_i ok hres
      simp only [Option.bind_eq_some_iff, Option.some.injEq] at h
      obtain ⟨entered, hentered, rfl⟩ := h
      exact Or.inr ⟨ok, entered, hres, hentered, rfl⟩
  · rename_i hneeds
    exact Or.inl ⟨by simpa using hneeds, h⟩

theorem setWorld_sound (haction : packet.action = .setWorld)
    (h : srv.setWorld env packet c = some r) : Sound env packet c srv r := by
  obtain ⟨worldId, ySize, hdata, -, ⟨-, h⟩ | ⟨hneeds, left, hleft, ⟨rfl, err, hres⟩ |
    ⟨ok, entered, hres, hentered, rfl⟩⟩⟩ := setWorld_cases h
  · rcases enterWorld_sound env haction hdata h with
      ⟨⟨err, hres⟩, hsent, heffect⟩ | ⟨hres, heffect⟩
    · exact ⟨by rw [hsent]; exact .one heffect, by simp [hres, QuietResult],
        by simp [haction, objectActions]⟩
    · exact ⟨.one heffect, by simp [hres, QuietResult], by simp [haction, objectActions]⟩
  · exact leaveWorld_failed (by simp [haction, objectActions]) hleft hres
  · have hprelude : Prelude env packet c srv left.sent left.srv := leaveWorld_ok (by simp [haction]) (by
      intro _ key game player world hgame hplayer hworld
      unfold Server.needsLeaveWorld at hneeds
      simp only [hgame, hplayer, Option.bind_some, Player.worldId, hworld, Option.map_some,
        decide_eq_true_eq] at hneeds
      rw [hdata]
      simpa using Ne.symm hneeds) hleft hres
    rcases enterWorld_sound env haction hdata hentered with
      ⟨⟨err, hres⟩, hsent, heffect⟩ | ⟨hres, heffect⟩
    · refine ⟨?_, by simp [hres, QuietResult], by simp [haction, objectActions]⟩
      show Handled env packet c srv (left.sent ++ entered.sent) entered.srv
      rw [hsent]
      exact .two (by simp [haction]) hprelude heffect
    · exact ⟨.two (by simp [haction]) hprelude heffect, by simp [hres, QuietResult],
        by simp [haction, objectActions]⟩

end VangersSrv
