/-
The queries, and how a connection joins a game and describes itself.

A handler with more than one way out has a lemma that says what it can do, read from the top of
the source; what is shown of the handler is then shown for each of these ways.
-/
import VangersSrv.Server.Handled.Sound

namespace VangersSrv

variable {env : Env} {packet : Packet} {c : ClientID} {srv srv' : Server} {r : Reply}

/-! ### Queries -/

theorem totalPlayersDataQuery_sound (h : srv.totalPlayersDataQuery c = some r) :
    Sound env packet c srv r := by
  unfold Server.totalPlayersDataQuery at h
  split at h
  · exact Sound.fail h
  · simp only [Option.bind_eq_bind, Option.bind_eq_some_iff, Option.some.injEq] at h
    obtain ⟨answer, hanswer, rfl⟩ := h
    exact Sound.ofOk rfl (quiet_new hanswer (by decide)) (.one (.quiet (by simp)))

/-- A query of the top list is turned down, or the sort ends and the list is sent. -/
theorem topListQuery_cases (h : srv.topListQuery env packet = some r) :
    srv.fail (.topListQuery .modeEmpty) = some r ∨ ∃ data, srv.respond packet data = some r := by
  unfold Server.topListQuery at h
  split at h
  · exact Or.inl h
  · simp only [Option.bind_eq_bind, Option.bind_eq_some_iff] at h
    obtain ⟨entries, -, sorted, -, h⟩ := h
    exact Or.inr ⟨_, h⟩

theorem topListQuery_sound (h : srv.topListQuery env packet = some r) : Sound env packet c srv r := by
  rcases topListQuery_cases h with hfail | ⟨_, hrespond⟩
  · exact Sound.fail hfail
  · exact Sound.respond hrespond

/-- A direct message is turned down, or the player that was found sends the answer to those the
mask names. -/
theorem directSending_cases (h : srv.directSending packet c = some r) :
    (∃ err, srv.fail err = some r ∧ ∀ p, err ≠ .notImplementedAction p) ∨
      ∃ key game mask player b text answer, srv.getGameByClientid c = some (key, game) ∧
        sliceLeToU32 (packet.data.take 4) = some mask ∧
        (Server.directTargets game c mask).1 = some player ∧ player.bindId = some b ∧
        getFirstCstr (packet.data.drop 4) = some text ∧
        packet.createAnswer ([b] ++ Server.limitMsg text) = some answer ∧
        r = {
          srv
          sent := srv.sendTo (Server.directTargets game c mask).2 answer
          result := .ok .complete } := by
  unfold Server.directSending at h
  split at h
  · exact Or.inl ⟨_, h, by simp⟩
  split at h
  · exact Or.inl ⟨_, h, by simp⟩
  rename_i key game hgame
  simp only [Option.bind_eq_bind, Option.bind_eq_some_iff] at h
  obtain ⟨bytes, hbytes, mask, hmask, h⟩ := h
  split at h
  · exact Or.inl ⟨_, h, by simp⟩
  rename_i player hsender
  split at h
  swap
  · exact Or.inl ⟨_, h, by simp⟩
  rename_i b auth hbound hauth
  simp only [Option.bind_eq_some_iff] at h
  obtain ⟨payload, hpayload, h⟩ := h
  split at h
  · exact Or.inl ⟨_, h, by simp⟩
  rename_i text htext
  split at h
  · exact Or.inl ⟨_, h, by simp⟩
  rename_i answer hanswer
  obtain ⟨-, rfl⟩ := slice_eq_some.mp hbytes
  obtain ⟨-, rfl⟩ := sliceFrom_eq_some.mp hpayload
  exact Or.inr ⟨key, game, mask, player, b, text, answer, hgame, hmask, hsender, hbound, htext,
    hanswer, Server.complete_eq_some h⟩

theorem directSending_sound (h : srv.directSending packet c = some r) :
    Sound env packet c srv r := by
  rcases directSending_cases h with ⟨err, hfail, -⟩ |
    ⟨key, game, mask, player, b, text, answer, -, -, -, -, -, hanswer, rfl⟩
  · exact Sound.fail hfail
  · refine Sound.complete rfl (.one (.quiet ?_))
    intro s hs
    rw [(Server.mem_sendTo.mp hs).2.2.1]
    exact Sound.quiet_createAnswer hanswer

/-! ### Joining and describing oneself -/

/-- A game with a free number has room. -/
theorem attachPlayer_free {g : Game} {b : UInt8} (p : Player) (h : g.getUniqPlayerId = some b) :
    g.attachPlayer p ≠ some none := by
  unfold Game.attachPlayer
  simp [h, Game.getUniqPlayerId_pos h, Option.bind_eq_some_iff]

theorem attachPlayer_some {g g' : Game} {playerId : UInt8}
    (h : g.attachPlayer (Player.new c) = some (some (g', playerId))) :
    ∃ b : Bind, g.getUniqPlayerId = some b.id ∧ playerId = b.id ∧ g' = g.joined c b := by
  unfold Game.attachPlayer at h
  split at h
  · rename_i uniqId huniq
    split at h
    · rename_i hpos
      simp only [Option.bind_eq_bind, Option.bind_eq_some_iff, Option.some.injEq,
        Prod.mk.injEq] at h
      obtain ⟨p, hp, rfl, rfl⟩ := h
      have hne : uniqId ≠ 0 := fun h0 => by subst h0; exact absurd hpos (by decide)
      unfold Player.setBind at hp
      rw [if_neg hne] at hp
      obtain ⟨b, hb, rfl⟩ := Option.map_eq_some_iff.mp hp
      have hid := Bind.new_eq_some hb
      exact ⟨b, by rw [huniq, hid], hid.symm, by simp [Game.joined, hid]⟩
    · simp at h
  · simp at h

/-- The game that is asked for is not there, or it is full. -/
def Server.Refuses (env : Env) (srv : Server) (c : ClientID) (requested : I32) : Prop :=
  (srv.requestedGame env requested).1.games.lookup (srv.requestedGame env requested).2 = none ∨
    ∃ found, (srv.requestedGame env requested).1.games.lookup (srv.requestedGame env requested).2
      = some found ∧ found.attachPlayer (Player.new c) = some none

/-- A game with a free number does not refuse. -/
theorem not_refuses {requested : I32} {found : Game} {b : UInt8}
    (hfound : (srv.requestedGame env requested).1.games.lookup
      (srv.requestedGame env requested).2 = some found) (hfree : found.getUniqPlayerId = some b) :
    ¬ srv.Refuses env c requested := by
  rintro (hnone | ⟨game, hgame, hfull⟩)
  · rw [hfound] at hnone
    cases hnone
  · obtain rfl := Option.some.inj (hfound.symm.trans hgame)
    exact attachPlayer_free _ hfree hfull

/-- A game that was just made has all its numbers free. -/
theorem not_refuses_fresh (hin : srv.gamesIdUniq + 1 ∉ srv.games) : ¬ srv.Refuses env c 0 := by
  have hfound : (srv.requestedGame env 0).1.games.lookup (srv.requestedGame env 0).2
      = some (Game.new (srv.gamesIdUniq + 1) env.now) := by
    rw [Server.requestedGame_fresh hin]
    exact AList.lookup_insert _
  exact not_refuses hfound (show (Game.new (srv.gamesIdUniq + 1) env.now).getUniqPlayerId = some 1 from rfl)

/-- An attach is turned down, or a player joins the game that was found. -/
theorem attachToGame_cases (h : srv.attachToGame env packet c = some r) :
    (packet.data.length ≠ 4 ∧ srv.fail (.attachToGame .idEmpty) = some r) ∨
      ∃ requested, sliceLeToI32 packet.data = some requested ∧
        ((srv.Refuses env c requested ∧
            ∃ err, (srv.requestedGame env requested).1.fail (.attachToGame err) = some r) ∨
          ∃ found bind offsets packets time header,
            (srv.requestedGame env requested).1.games.lookup (srv.requestedGame env requested).2
              = some found ∧
            found.getUniqPlayerId = some bind.id ∧
            idOffsets bind.id (found.joined c bind).vanjects = some offsets ∧
            header = toLeBytes32 (found.joined c bind).id
              ++ [if (found.joined c bind).isConfigured then 1 else 0]
              ++ toLeBytes32 ((found.joined c bind).birthTime.asSecsU32 env.now) ++ [bind.id] ∧
            ((found.joined c bind).vanjects.values.filter fun v => !v.isNonGlobal).mapM
              (fun v => Packet.new .updateObject v.toVangersByte) = some packets ∧
            Packet.new .zTimeResponse (toLeBytes32 env.unix) = some time ∧
            ((srv.requestedGame env requested).1.setGame (srv.requestedGame env requested).2
              (found.joined c bind)).complete
                (((packet.createAnswer (header ++ offsetsBytes offsets)).toList ++ [time]
                  ++ packets).flatMap
                    (((srv.requestedGame env requested).1.setGame
                      (srv.requestedGame env requested).2 (found.joined c bind)).notifyPlayer c))
              = some r) := by
  unfold Server.attachToGame at h
  split at h
  · rename_i hlen
    exact Or.inl ⟨hlen, h⟩
  simp only [Option.bind_eq_bind, Option.bind_eq_some_iff] at h
  obtain ⟨requested, hrequested, h⟩ := h
  refine Or.inr ⟨requested, hrequested, ?_⟩
  split at h
  · rename_i hmissing
    exact Or.inl ⟨Or.inl hmissing, _, h⟩
  rename_i found hfound
  simp only [Option.bind_eq_some_iff] at h
  obtain ⟨attached, hattached, h⟩ := h
  split at h
  · exact Or.inl ⟨Or.inr ⟨found, hfound, hattached⟩, _, h⟩
  rename_i game playerId
  simp only [Option.bind_eq_some_iff] at h
  obtain ⟨offsets, hoffsets, packets, hpackets, time, htime, h⟩ := h
  obtain ⟨bind, hfree, rfl, rfl⟩ := attachPlayer_some hattached
  exact Or.inr ⟨found, bind, offsets, packets, time, _, hfound, hfree, hoffsets, rfl, hpackets, htime,
    h⟩

/-- An attach to a game with a free number succeeds. -/
theorem attachToGame_ok {requested : I32} {found : Game} {b : UInt8}
    (hrequested : sliceLeToI32 packet.data = some requested)
    (hfound : (srv.requestedGame env requested).1.games.lookup
      (srv.requestedGame env requested).2 = some found)
    (hfree : found.getUniqPlayerId = some b) (h : srv.attachToGame env packet c = some r) :
    r.result = .ok .complete := by
  rcases attachToGame_cases h with ⟨hlen, -⟩ | ⟨requested', hrequested', ⟨hrefuses, -⟩ |
    ⟨found', bind, offsets, packets, time, header, -, -, -, -, -, -, h⟩⟩
  · rw [← toLeBytes32_of_sliceLeToI32 hrequested] at hlen
    simp at hlen
  · obtain rfl := Option.some.inj (hrequested.symm.trans hrequested')
    exact absurd hrefuses (not_refuses hfound hfree)
  · rw [Server.complete_eq_some h]

theorem attachToGame_sound (haction : packet.action = .attachToGame)
    (h : srv.attachToGame env packet c = some r) : Sound env packet c srv r := by
  rcases attachToGame_cases h with ⟨-, hfail⟩ | ⟨requested, hrequested, ⟨hrefuses, err, hfail⟩ |
    ⟨found, bind, offsets, packets, time, header, hfound, hfree, -, -, hpackets, htime, h⟩⟩
  · exact Sound.fail hfail
  · by_cases h0 : requested = 0
    · subst h0
      by_cases hin : srv.gamesIdUniq + 1 ∈ srv.games
      · rw [Server.requestedGame_taken hin] at hfail
        exact Sound.failAfter hfail (by simp [haction, objectActions]) (.counted haction hrequested hin)
      · exact absurd hrefuses (not_refuses_fresh hin)
    · rw [Server.requestedGame_of_ne h0] at hfail
      exact Sound.fail hfail
  · refine Sound.complete h (.one (.attached haction hrequested hfound hfree ?_ ?_))
    · intro s hs
      obtain ⟨p, -, hs⟩ := List.mem_flatMap.mp hs
      exact Server.notifyPlayer_client hs
    · intro s hs
      obtain ⟨p, hp, hs⟩ := List.mem_flatMap.mp hs
      rw [Server.notify_packet hs]
      simp only [List.append_assoc, List.mem_append, Option.mem_toList, List.mem_singleton] at hp
      rcases hp with hanswer | rfl | hp
      · exact Or.inl (Sound.quiet_createAnswer hanswer)
      · exact Or.inl (quiet_new htime (by decide))
      · obtain ⟨v, hv, hpacket⟩ := (mem_mapM hpackets).mp hp
        obtain ⟨hmem, hglobal⟩ := List.mem_filter.mp hv
        obtain ⟨id, hid⟩ := AList.mem_values.mp hmem
        exact Or.inr ⟨id, v, hid, by simpa using hglobal, hpacket⟩

/-- A restore finds its player and hands it over, or it does nothing. -/
theorem restoreConnection_cases (h : srv.restoreConnection packet c = some r) :
    ((∀ gameId playerId game, packet.data = toLeBytes32 gameId ++ [playerId] →
        srv.games.lookup gameId = some game →
        game.players.find? (fun p => p.bindId = some playerId) = none) ∧
      r.srv = srv ∧ r.sent = [] ∧ QuietResult r.result) ∨
    ∃ gameId playerId game player answer, packet.data = toLeBytes32 gameId ++ [playerId] ∧
      srv.games.lookup gameId = some game ∧
      game.players.find? (fun p => p.bindId = some playerId) = some player ∧
      Packet.new .restoreConnectionResponse [1] = some answer ∧
      r = { srv := if player.clientId ≠ c then
              (srv.setGame gameId (game.restored c playerId)).dropClient player.clientId
            else srv.setGame gameId (game.restored c playerId)
            sent := []
            result := .ok (.response answer) } := by
  unfold Server.restoreConnection at h
  split at h
  · rename_i hlen
    obtain rfl := Server.fail_eq_some h
    refine Or.inl ⟨fun gameId playerId game hdata => ?_, rfl, rfl, trivial⟩
    rw [hdata] at hlen
    simp at hlen
  rename_i hlen
  simp only [Option.bind_eq_bind, Option.bind_eq_some_iff] at h
  obtain ⟨idBytes, hslice, gameId, hid, playerId, hplayerId, h⟩ := h
  have hdata : packet.data = toLeBytes32 gameId ++ [playerId] := by
    rw [toLeBytes32_of_sliceLeToI32 hid, ← (slice_eq_some.mp hslice).2]
    have hlen5 : packet.data.length = 5 := by simpa using hlen
    have hdrop : packet.data.drop 4 = [playerId] := by
      rw [List.drop_eq_getElem_cons (by omega), List.drop_eq_nil_of_le (by omega)]
      rw [List.getElem?_eq_getElem (by omega)] at hplayerId
      simpa using hplayerId
    calc packet.data = packet.data.take 4 ++ packet.data.drop 4 := (List.take_append_drop 4 _).symm
      _ = _ := by rw [hdrop]; rfl
  -- the payload names one game and one number
  have hunique : ∀ gameId' playerId', packet.data = toLeBytes32 gameId' ++ [playerId'] →
      gameId' = gameId ∧ playerId' = playerId := by
    intro gameId' playerId' hdata'
    obtain ⟨hbytes, hlast⟩ := List.append_inj' (hdata'.symm.trans hdata) rfl
    exact ⟨toLeBytes32_injective hbytes, by simpa using hlast⟩
  split at h
  · rename_i hnone
    simp only [Option.bind_eq_some_iff, Option.some.injEq] at h
    obtain ⟨answer, hanswer, rfl⟩ := h
    refine Or.inl ⟨fun gameId' playerId' game hdata' hlookup => ?_, rfl, rfl,
      quiet_new hanswer (by decide)⟩
    rw [(hunique _ _ hdata').1, hnone] at hlookup
    cases hlookup
  · rename_i game hlookup
    split at h
    · rename_i hnone
      simp only [Option.bind_eq_some_iff, Option.some.injEq] at h
      obtain ⟨answer, hanswer, rfl⟩ := h
      refine Or.inl ⟨fun gameId' playerId' game' hdata' hlookup' => ?_, rfl, rfl,
        quiet_new hanswer (by decide)⟩
      rw [(hunique _ _ hdata').1, hlookup] at hlookup'
      cases hlookup'
      rw [(hunique _ _ hdata').2]
      exact hnone
    · rename_i player hfind
      simp only [Option.bind_eq_some_iff, Option.some.injEq] at h
      obtain ⟨answer, hanswer, rfl⟩ := h
      exact Or.inr ⟨gameId, playerId, game, player, answer, hdata, hlookup, hfind, hanswer, rfl⟩

theorem restoreConnection_sound (haction : packet.action = .restoreConnection)
    (h : srv.restoreConnection packet c = some r) : Sound env packet c srv r := by
  rcases restoreConnection_cases h with ⟨-, hsrv, hsent, hquiet⟩ |
    ⟨gameId, playerId, game, player, answer, hdata, hlookup, hfind, hanswer, rfl⟩
  · refine ⟨?_, hquiet, by simp [haction, objectActions]⟩
    rw [hsrv, hsent]
    exact .one (.quiet (by simp))
  · exact Sound.ofOk rfl (quiet_new hanswer (by decide))
      (.one (.restored haction hdata hlookup hfind rfl))

/-- A name is turned down, or it is stored and told to the others. -/
theorem registerName_cases (h : srv.registerName env packet c = some r) :
    (∃ err, srv.fail (.registerName err) = some r) ∨
      ∃ key game player b login pwd answer, Acting srv c key game player b ∧
        Server.extractAuthData packet.data = .ok (login, pwd) ∧
        packet.createAnswer ([b] ++ withNul login) = some answer ∧
        (srv.setGame key (game.modifyPlayer c fun _ =>
          { player with auth := some (Auth.new env.randomName (withNul login)) })).complete
            ((srv.setGame key (game.modifyPlayer c fun _ =>
              { player with auth := some (Auth.new env.randomName (withNul login)) })).notifyGame c
                answer) = some r := by
  unfold Server.registerName at h
  split at h
  · exact Or.inl ⟨_, h⟩
  rename_i key game hgame
  simp only [Option.bind_eq_bind, Option.bind_eq_some_iff] at h
  obtain ⟨player, hplayer, h⟩ := h
  split at h
  · exact Or.inl ⟨_, h⟩
  rename_i b hbound
  split at h
  · exact Or.inl ⟨_, h⟩
  rename_i login pwd hdata
  simp only [Option.bind_eq_some_iff] at h
  obtain ⟨player', hauth, answer, hanswer, h⟩ := h
  unfold Player.setAuth at hauth
  split at hauth
  · obtain rfl := Option.some.inj hauth
    exact Or.inr ⟨key, game, player, b, login, pwd, answer, ⟨hgame, hplayer, hbound⟩, hdata, hanswer,
      h⟩
  · cases hauth

theorem registerName_sound (haction : packet.action = .registerName)
    (h : srv.registerName env packet c = some r) : Sound env packet c srv r := by
  rcases registerName_cases h with ⟨err, hfail⟩ |
    ⟨key, game, player, b, login, pwd, answer, hacting, hdata, hanswer, h⟩
  · exact Sound.fail hfail
  · exact Sound.complete h (.one (.prelude (.playerChanged hacting.inGame hacting.found rfl rfl rfl rfl
      (quiet_notify (Sound.quiet_createAnswer hanswer)) (.named haction hdata))))

/-- The body is stored, and then the request is turned down or told to the others. -/
theorem setPlayerData_cases (h : srv.setPlayerData packet c = some r) :
    (∃ err, srv.fail (.setPlayerData err) = some r) ∨
      ∃ key game player body after, srv.getGameByClientid c = some (key, game) ∧
        game.getPlayer c = some player ∧ Body.fromSlice packet.data = some body ∧
        after = srv.setGame key (game.modifyPlayer c fun _ => { player with body }) ∧
        ((∃ err, after.fail err = some r ∧ (∀ p, err ≠ .notImplementedAction p) ∧
            (body.isSome → ∀ b, player.bindId = some b →
              packet.createAnswer ([b] ++ packet.data) = none)) ∨
          ∃ b answer, packet.createAnswer ([b] ++ packet.data) = some answer ∧
            after.complete (after.notifyGame c answer) = some r) := by
  unfold Server.setPlayerData at h
  split at h
  · exact Or.inl ⟨_, h⟩
  rename_i key game hgame
  simp only [Option.bind_eq_bind, Option.bind_eq_some_iff] at h
  obtain ⟨player, hplayer, ⟨player', parsed⟩, hset, h⟩ := h
  obtain ⟨body, hbody, rfl, rfl⟩ := Player.setBody_eq_some hset
  refine Or.inr ⟨key, game, player, body, _, hgame, hplayer, hbody, rfl, ?_⟩
  split at h
  · split at h
    · rename_i hunbound
      exact Or.inl ⟨_, h, by simp, fun _ b hb => by cases hb.symm.trans hunbound⟩
    rename_i b hbound
    split at h
    · rename_i hnone
      refine Or.inl ⟨_, h, by simp, fun _ b' hb' => ?_⟩
      obtain rfl := Option.some.inj (hbound.symm.trans hb')
      exact hnone
    · rename_i answer hanswer
      exact Or.inr ⟨b, answer, hanswer, h⟩
  · rename_i hparsed
    exact Or.inl ⟨_, h, by simp, fun hsome => absurd hsome hparsed⟩

theorem setPlayerData_sound (haction : packet.action = .setPlayerData)
    (h : srv.setPlayerData packet c = some r) :
    Sound env packet c srv r := by
  rcases setPlayerData_cases h with ⟨err, hfail⟩ |
    ⟨key, game, player, body, after, hgame, hplayer, hbody, rfl, hresult⟩
  · exact Sound.fail hfail
  have changed : ∀ sent : List Sent, (∀ s ∈ sent, s.packet.Quiet) →
      Effect env packet c srv sent
        (srv.setGame key (game.modifyPlayer c fun _ => { player with body })) :=
    fun sent hq =>
      .prelude (.playerChanged hgame hplayer rfl rfl rfl rfl hq (.described haction hbody))
  rcases hresult with ⟨err, hfail, -⟩ | ⟨b, answer, hanswer, h⟩
  · exact Sound.failAfter hfail (by simp [haction, objectActions]) (changed [] (by simp))
  · exact Sound.complete h (.one (changed _ (quiet_notify (Sound.quiet_createAnswer hanswer))))

theorem setPosition_sound (haction : packet.action = .setPosition)
    (h : srv.setPosition packet c = some r) : Sound env packet c srv r := by
  unfold Server.setPosition at h
  split at h
  · exact Sound.fail h
  simp only [Option.bind_eq_bind, Option.bind_eq_some_iff] at h
  obtain ⟨_, -, x, -, _, -, y, -, _, -, screen, -, h⟩ := h
  split at h
  · exact Sound.fail h
  rename_i key game hgame
  split at h
  · exact Sound.fail h
  rename_i player hplayer
  split at h
  · exact Sound.complete h (.one (.quiet (by simp)))
  · rw [Game.modifyPlayer_const hplayer] at h
    exact Sound.complete h (.one (.prelude
      (.playerChanged hgame hplayer rfl rfl rfl rfl (by simp) (.moved haction))))

/-- A game that has no configuration keeps none, or gets one and its name. -/
theorem setGameData_cases (h : srv.setGameData packet c = some r) :
    (∃ err, srv.fail (.setGameData err) = some r) ∨
      ∃ key game name rest, srv.getGameByClientid c = some (key, game) ∧ game.config = none ∧
        cstrUntilNul packet.data = some name ∧ name ≠ [] ∧
        sliceFrom packet.data (withNul name).length = some rest ∧
        ((Config.fromSlice rest = some none ∧
            ∃ err, (srv.setGame key { game with config := none }).fail (.setGameData err) = some r) ∨
          ∃ config, Config.fromSlice rest = some (some config) ∧
            (srv.setGame key { game with config := some config, name := withNul name }).complete []
              = some r) := by
  unfold Server.setGameData at h
  split at h
  · exact Or.inl ⟨_, h⟩
  rename_i key game hgame
  split at h
  · exact Or.inl ⟨_, h⟩
  rename_i hunconf
  split at h
  · exact Or.inl ⟨_, h⟩
  rename_i name hname
  split at h
  · exact Or.inl ⟨_, h⟩
  rename_i hne
  simp only [Option.bind_eq_bind, Option.bind_eq_some_iff] at h
  obtain ⟨rest, hrest, ⟨game', result⟩, hconfig, h⟩ := h
  unfold Game.setConfig at hconfig
  rw [if_neg hunconf] at hconfig
  simp only [Option.bind_eq_bind, Option.bind_eq_some_iff] at hconfig
  obtain ⟨config, hparse, hconfig⟩ := hconfig
  have hnone : game.config = none := by simpa [Game.isConfigured] using hunconf
  refine Or.inr ⟨key, game, name, rest, hgame, hnone, hname, hne, hrest, ?_⟩
  cases config with
  | some config =>
      obtain ⟨rfl, rfl⟩ := Prod.mk.inj (Option.some.inj hconfig)
      exact Or.inr ⟨config, hparse, h⟩
  | none =>
      obtain ⟨rfl, rfl⟩ := Prod.mk.inj (Option.some.inj hconfig)
      exact Or.inl ⟨hparse, _, h⟩

theorem setGameData_sound (haction : packet.action = .setGameData) (h : srv.setGameData packet c = some r) :
    Sound env packet c srv r := by
  rcases setGameData_cases h with ⟨err, hfail⟩ | ⟨key, game, name, rest, hgame, hnone, hname, hne,
    hrest, ⟨hparse, err, hfail⟩ | ⟨config, hparse, h⟩⟩
  · exact Sound.fail hfail
  · exact Sound.failAfter hfail (by simp [haction, objectActions])
      (.gameChanged hgame haction hnone (.refused hname hrest hparse))
  · exact Sound.complete h
      (.one (.gameChanged hgame haction hnone (.configured hname hne hrest hparse)))

theorem getGameData_sound (h : srv.getGameData packet c = some r) : Sound env packet c srv r := by
  unfold Server.getGameData at h
  split at h
  · exact Sound.fail h
  split at h
  · exact Sound.fail h
  · exact Sound.respond h

end VangersSrv
