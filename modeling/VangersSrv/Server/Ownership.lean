/-
Ownership: what a request may do to objects of other players.

`Exempt` lists the ways a request may touch an object its sender does not own; any other
object is stored unchanged afterwards (`Kept`).  Each effect is checked against every
stored object; a prelude before it is followed through to the state the effect sees.
-/
import VangersSrv.Server.Registry

namespace VangersSrv

/-- The object is stored under its id in the game, unchanged. -/
def Kept (srv : Server) (k : GameID) (id : I32) (o : Vanject) : Prop :=
  ∃ g, srv.games.lookup k = some g ∧ g.vanjects.lookup id = some o

/-- The ways a request of the acting player touches an object of another owner. -/
inductive Exempt (packet : Packet) (c : ClientID) (key : GameID) (game : Game) (player : Player)
    (b : UInt8) (srv' : Server) (k : GameID) (id : I32) (o : Vanject) : Prop
  /-- An update of an object that is global or has the static bit. -/
  | update (haction : packet.action = .updateObject)
      (hid : sliceLeToI32 (packet.data.take 4) = some id) (hkey : k = key)
      (hopen : o.isNonGlobal = false ∨ o.isNonStatic = false)
  /-- The pick-up of a STUFF in the player's world. -/
  | pickup {t : ItemTransfer} (haction : packet.action = .itemTransfer)
      (hparse : ItemTransfer.parse packet = some (.ok t)) (hkind : t.kind = itemTransferPickup)
      (hid : t.oldId = id) (hkey : k = key) (htype : o.getType = NID.stuff)
      (hworld : player.worldId = some (worldOf o.id))
  /-- A private object of the player's station goes when the player leaves its world. -/
  | leave {w : World} (haction : packet.action ∈ [Action.leaveWorld, .setWorld, .closeSocket])
      (hworld : player.world = some w)
      (hother : packet.action = .setWorld → packet.data[0]? ≠ some w.id)
      (hkey : k = key) (hprivate : o.isPrivate = true) (hstation : o.getStation = asI32 b)
  /-- The last player of the game takes the game with it. -/
  | last (haction : packet.action = .closeSocket) (hkey : k = key)
      (halone : ∀ q ∈ game.players, q.clientId = c) (hgone : srv'.games.lookup key = none)

section

variable {env : Env} {packet : Packet} {c : ClientID} {srv srv' mid : Server} {sent : List Sent}
  {key k : GameID} {game g : Game} {player : Player} {b : UInt8} {id : I32} {o : Vanject}

/-- A write to a game keeps an object when it keeps it in that game. -/
theorem Kept.setGame {game' : Game} (hlookup : srv.games.lookup key = some game)
    (h : Kept srv k id o)
    (hsame : k = key → game.vanjects.lookup id = some o → game'.vanjects.lookup id = some o) :
    Kept (srv.setGame key game') k id o := by
  obtain ⟨g, hk, ho⟩ := h
  by_cases hkey : k = key
  · subst hkey
    cases hk.symm.trans hlookup
    exact ⟨game', Server.lookup_setGame_self hk, hsame rfl ho⟩
  · exact ⟨g, by rw [Server.lookup_setGame_of_ne hkey]; exact hk, ho⟩

/-- A write that leaves the store of its game alone keeps every object. -/
theorem Kept.setGame_same {game' : Game} (hlookup : srv.games.lookup key = some game)
    (hvan : game'.vanjects = game.vanjects) (h : Kept srv k id o) :
    Kept (srv.setGame key game') k id o := by
  refine h.setGame hlookup fun _ ho => ?_
  rw [hvan]
  exact ho

/-- After a prelude the same player acts under the same number, in its old world or in none. -/
theorem Prelude.acting (h : Prelude env packet c srv sent mid)
    (hacting : Acting srv c key game player b) :
    ∃ game' player', Acting mid c key game' player' b ∧
      game'.players.map Player.clientId = game.players.map Player.clientId ∧
      (player'.world = player.world ∨ player'.world = none) := by
  cases h with
  | @playerChanged _ key₁ game₁ p p' hgame hplayer hclient hbind hworld _ _ =>
      have hkeys := hacting.inGame.symm.trans hgame
      simp only [Option.some.injEq, Prod.mk.injEq] at hkeys
      obtain ⟨rfl, rfl⟩ := hkeys
      obtain rfl := Option.some.inj (hacting.found.symm.trans hplayer)
      have hfound : (game.modifyPlayer c fun _ => p').getPlayer c = some p' :=
        Game.getPlayer_modifyPlayer hplayer hclient
      refine ⟨_, p', ⟨Server.getGameByClientid_setGame hgame ⟨p', hfound⟩, hfound, ?_⟩, ?_,
        Or.inl hworld⟩
      · rw [← hacting.bound]
        simp [Player.bindId, hbind]
      · refine List.map_modifyFirst fun q hq => ?_
        rw [hclient, Option.some.inj (hplayer.symm.trans hq)]
  | left _ _ hacting' _ _ _ =>
      obtain ⟨rfl, rfl, rfl, rfl⟩ := hacting.unique hacting'
      have hfound := Game.getPlayer_modifyPlayer (f := fun p => { p with world := none })
        hacting.found rfl
      exact ⟨_, _, ⟨Server.getGameByClientid_setGame hacting.inGame ⟨_, hfound⟩, hfound,
        hacting.bound⟩, List.map_modifyFirst fun _ _ => rfl, Or.inr rfl⟩

/-- Who acts after a prelude acted before it, with the same configuration, and with the same
objects unless it has left. -/
theorem Prelude.acting_back (h : Prelude env packet c srv sent mid) (hok : RegistryOk srv)
    (hacting : Acting mid c k game player b) :
    ∃ game₀ player₀, Acting srv c k game₀ player₀ b ∧ game.config = game₀.config ∧
      (game.vanjects = game₀.vanjects ∨ packet.action ∈ [Action.leaveWorld, .setWorld, .closeSocket]) := by
  have hback : ∀ {key₀ game₀ player₀ b₀}, Acting srv c key₀ game₀ player₀ b₀ →
      key₀ = k ∧ b₀ = b := by
    intro key₀ game₀ player₀ b₀ hacting₀
    obtain ⟨_, _, hafter, -, -⟩ := h.acting hacting₀
    obtain ⟨hkey, -, -, hb⟩ := hafter.unique hacting
    exact ⟨hkey, hb⟩
  have hlookup := Server.getGameByClientid_lookup hacting.inGame
  cases h with
  | playerChanged hgame _ _ _ _ _ _ _ =>
      obtain ⟨player₀, b₀, hacting₀⟩ := hok.exists_acting hgame
      obtain ⟨rfl, rfl⟩ := hback hacting₀
      rw [Server.lookup_setGame_self (Server.getGameByClientid_lookup hgame)] at hlookup
      cases hlookup
      exact ⟨_, player₀, hacting₀, rfl, Or.inl rfl⟩
  | left haction _ hacting₀ _ _ _ =>
      obtain ⟨rfl, rfl⟩ := hback hacting₀
      rw [Server.lookup_setGame_self (Server.getGameByClientid_lookup hacting₀.inGame)] at hlookup
      cases hlookup
      exact ⟨_, _, hacting₀, rfl, Or.inr haction⟩

theorem Prelude.owned (h : Prelude env packet c srv sent srv')
    (hacting : Acting srv c key game player b) (hk : srv.games.lookup k = some g)
    (ho : g.vanjects.lookup id = some o) (hne : o.playerBindId ≠ b) :
    Kept srv' k id o ∨ ∀ last, Exempt packet c key game player b last k id o := by
  cases h with
  | playerChanged hgame _ _ _ _ _ _ =>
      exact Or.inl (Kept.setGame_same (Server.getGameByClientid_lookup hgame) rfl ⟨g, hk, ho⟩)
  | left haction hother hacting' hworld _ _ =>
      obtain ⟨rfl, rfl, rfl, rfl⟩ := hacting.unique hacting'
      have hlookup := Server.getGameByClientid_lookup hacting.inGame
      by_cases hgone : k = key ∧ shouldDeleteOnLeaveWorld o b = true
      · -- not being the owner's, the object goes for its station
        obtain ⟨hkey, hdelete⟩ := hgone
        simp only [shouldDeleteOnLeaveWorld, hne, decide_false, Bool.and_false, Bool.false_or,
          Bool.and_eq_true, decide_eq_true_eq] at hdelete
        exact Or.inr fun _ => .leave haction hworld hother hkey hdelete.2 hdelete.1
      · refine Or.inl (Kept.setGame hlookup ⟨g, hk, ho⟩ fun hkey ho => ?_)
        refine AList.lookup_retain_eq_some.mpr ⟨ho, ?_⟩
        simpa using fun hdelete => hgone ⟨hkey, hdelete⟩

theorem Effect.owned (h : Effect env packet c srv sent srv') (hok : RegistryOk srv)
    (hacting : Acting srv c key game player b) (hk : srv.games.lookup k = some g)
    (ho : g.vanjects.lookup id = some o) (hne : o.playerBindId ≠ b) :
    Kept srv' k id o ∨ Exempt packet c key game player b srv' k id o := by
  have hkept : Kept srv k id o := ⟨g, hk, ho⟩
  cases h with
  | prelude h => exact (h.owned hacting hk ho hne).imp_right fun hexempt => hexempt _
  | quiet _ => exact Or.inl hkept
  | counted _ _ _ => exact Or.inl hkept
  | replayed _ _ _ => exact Or.inl hkept
  | gameChanged hgame =>
      exact Or.inl (hkept.setGame_same (Server.getGameByClientid_lookup hgame) rfl)
  | attached _ _ hfound _ _ =>
      left
      rcases Server.requestedGame_cases hfound with ⟨made, n, hgame, hlookup⟩ | ⟨made, n, hgame, hin, rfl⟩
      · have hcounted : Kept { srv with gamesIdUniq := n } k id o := hkept
        rw [hgame]
        exact hcounted.setGame_same hlookup rfl
      · have hkey : k ≠ made := by
          rintro rfl
          exact hin (AList.mem_iff_lookup.mpr ⟨g, hk⟩)
        rw [hgame]
        refine ⟨g, ?_, ho⟩
        rw [Server.lookup_setGame_of_ne hkey]
        simp only [AList.lookup_insert', if_neg hkey]
        exact hk
  | @restored _ gameId playerId game' player' _ _ hlookup _ hsrv =>
      left
      have hset : Kept (srv.setGame gameId (game'.restored c playerId)) k id o :=
        hkept.setGame_same hlookup rfl
      rw [hsrv]
      split
      · exact hset
      · exact hset
  | created _ hacting' _ hnew _ _ =>
      obtain ⟨rfl, rfl, rfl, rfl⟩ := hacting.unique hacting'
      refine Or.inl (hkept.setGame (Server.getGameByClientid_lookup hacting.inGame) fun _ ho => ?_)
      rw [AList.lookup_insert', if_neg]
      · exact ho
      · rintro rfl
        rw [hnew] at ho
        cases ho
  | @updated _ _ _ _ id' old new _ _ haction hacting' hid hold hpassed _ _ =>
      obtain ⟨rfl, rfl, rfl, rfl⟩ := hacting.unique hacting'
      have hlookup := Server.getGameByClientid_lookup hacting.inGame
      by_cases htouched : k = key ∧ id = id'
      · obtain ⟨rfl, rfl⟩ := htouched
        rw [hlookup] at hk
        cases hk
        rw [hold] at ho
        cases ho
        refine Or.inr (.update haction hid rfl ?_)
        -- an object that is neither global nor static is its owner's alone
        by_contra hclosed
        simp only [not_or, Bool.not_eq_false] at hclosed
        exact hne (updateRejection_owner hclosed.1 hclosed.2 hpassed)
      · refine Or.inl (hkept.setGame hlookup fun hkey ho => ?_)
        rw [AList.lookup_replace_of_ne _ fun hid' => htouched ⟨hkey, hid'⟩]
        exact ho
  | @deleted _ _ _ _ id' v _ _ hacting' hold howner _ =>
      obtain ⟨rfl, rfl, rfl, rfl⟩ := hacting.unique hacting'
      have hlookup := Server.getGameByClientid_lookup hacting.inGame
      refine Or.inl (hkept.setGame hlookup fun _ ho => ?_)
      rw [AList.lookup_erase', if_neg]
      · exact ho
      · rintro rfl
        rw [hold] at ho
        cases ho
        exact hne howner
  | deleteMissed _ hacting' _ _ =>
      exact Or.inl (hkept.setGame_same (Server.getGameByClientid_lookup hacting'.inGame) rfl)
  | @transferred _ _ _ _ world t old _ haction hacting' hworld hparse hvalid hpassed _ =>
      obtain ⟨rfl, rfl, rfl, rfl⟩ := hacting.unique hacting'
      have hlookup := Server.getGameByClientid_lookup hacting.inGame
      obtain ⟨hnew, hold, hw, -, hdrop⟩ := ItemTransfer.check_ok hpassed
      obtain ⟨hkind, -⟩ := ItemTransfer.validate_ok hvalid
      by_cases htouched : k = key ∧ id = t.oldId
      · obtain ⟨rfl, rfl⟩ := htouched
        rw [hlookup] at hk
        cases hk
        rw [hold] at ho
        cases ho
        have hkeyed := ((hok.game _ _ hlookup).keyed _ _ hold).1
        rcases hkind with ⟨hpick, htype, -⟩ | ⟨hdropped, -⟩
        · refine Or.inr (.pickup haction hparse hpick rfl rfl ?_ (by rw [hworld, hw]))
          unfold Vanject.getType
          rw [hkeyed]
          exact htype
        · exact absurd (hdrop hdropped) hne
      · refine Or.inl (hkept.setGame hlookup fun hkey ho => ?_)
        rw [AList.lookup_insert', if_neg, AList.lookup_erase', if_neg]
        · exact ho
        · exact fun hid' => htouched ⟨hkey, hid'⟩
        · rintro rfl
          rw [hnew] at ho
          cases ho
  | worldMade hgame _ _ _ =>
      exact Or.inl (hkept.setGame_same (Server.getGameByClientid_lookup hgame) rfl)
  | entered _ _ hacting' _ _ _ _ _ _ _ =>
      exact Or.inl (hkept.setGame_same (Server.getGameByClientid_lookup hacting'.inGame) rfl)
  | closed _ hacting' _ _ =>
      exact Or.inl (hkept.setGame_same (Server.getGameByClientid_lookup hacting'.inGame) rfl)
  | closedLast haction hacting' hothers _ =>
      obtain ⟨rfl, rfl, rfl, rfl⟩ := hacting.unique hacting'
      have hlookup := Server.getGameByClientid_lookup hacting.inGame
      have hid := hok.keyed key game hlookup
      by_cases hkey : k = key
      · refine Or.inr (.last haction hkey ?_ ?_)
        · intro q hq
          by_contra hqc
          have hmem : q ∈ (game.closed c player).players :=
            List.mem_filter.mpr ⟨hq, by simpa using hqc⟩
          rw [hothers] at hmem
          simp at hmem
        · simp [hid]
      · refine Or.inl ⟨g, ?_, ho⟩
        show ((srv.games.replace key _).erase game.id).lookup k = some g
        rw [AList.lookup_erase', hid, if_neg hkey, AList.lookup_replace_of_ne _ hkey]
        exact hk

/-- What a request may do after a prelude, it may do from the start. -/
theorem Exempt.back {game' : Game} {player' : Player}
    (h : Exempt packet c key game' player' b srv' k id o)
    (hclients : game'.players.map Player.clientId = game.players.map Player.clientId)
    (hworld : player'.world = player.world ∨ player'.world = none) :
    Exempt packet c key game player b srv' k id o := by
  have hback : ∀ w, player'.world = some w → player.world = some w := by
    intro w hw
    rcases hworld with heq | hnone
    · rw [← heq]
      exact hw
    · rw [hnone] at hw
      cases hw
  cases h with
  | update haction hid hkey hopen => exact .update haction hid hkey hopen
  | pickup haction hparse hkind hid hkey htype hw =>
      obtain ⟨w, hw, hwid⟩ := Option.map_eq_some_iff.mp hw
      exact .pickup haction hparse hkind hid hkey htype
        (Option.map_eq_some_iff.mpr ⟨w, hback w hw, hwid⟩)
  | leave haction hw hother hkey hprivate hstation =>
      exact .leave haction (hback _ hw) hother hkey hprivate hstation
  | last haction hkey halone hgone =>
      refine .last haction hkey (fun q hq => ?_) hgone
      have hmem : q.clientId ∈ game'.players.map Player.clientId := by
        rw [hclients]
        exact List.mem_map_of_mem hq
      obtain ⟨q', hq', hsame⟩ := List.mem_map.mp hmem
      rw [← hsame]
      exact halone q' hq'

theorem Handled.owned (h : Handled env packet c srv sent srv') (hok : RegistryOk srv)
    (hacting : Acting srv c key game player b) (hk : srv.games.lookup k = some g)
    (ho : g.vanjects.lookup id = some o) (hne : o.playerBindId ≠ b) :
    Kept srv' k id o ∨ Exempt packet c key game player b srv' k id o := by
  cases h with
  | one h => exact h.owned hok hacting hk ho hne
  | two _ h₁ h₂ =>
      rcases h₁.owned hacting hk ho hne with ⟨g', hk', ho'⟩ | hexempt
      · obtain ⟨game', player', hacting', hclients, hworld⟩ := h₁.acting hacting
        rcases h₂.owned (RegistryOk.prelude h₁ hok) hacting' hk' ho' hne with hkept | hexempt
        · exact Or.inl hkept
        · exact Or.inr (hexempt.back hclients hworld)
      · exact Or.inr (hexempt _)

end

/-- **Ownership safety.**  A request leaves every object of another owner stored and
unchanged, or it is one of the listed exceptions, and accepted when it is about the object. -/
theorem ownership_safe {env : Env} {packet : Packet} {c : ClientID} {srv : Server} {reply : Reply}
    {key k : GameID} {game g : Game} {player : Player} {b : UInt8} {id : I32} {o : Vanject}
    (hreach : ServerReachable srv) (hacting : Acting srv c key game player b)
    (h : srv.onUpdate env c packet = some reply) (hk : srv.games.lookup k = some g)
    (ho : g.vanjects.lookup id = some o) (hne : o.playerBindId ≠ b) :
    Kept reply.srv k id o ∨
      (Exempt packet c key game player b reply.srv k id o ∧
        (packet.action = .updateObject ∨ packet.action = .itemTransfer →
          ∃ ok, reply.result = .ok ok)) := by
  obtain ⟨_, _, -, -, hhandled, hfailed⟩ := onUpdate_handled h
  rcases hhandled.owned hreach.registryOk hacting hk ho hne with hkept | hexempt
  · exact Or.inl hkept
  · cases hres : reply.result with
    | ok ok => exact Or.inr ⟨hexempt, fun _ => ⟨ok, rfl⟩⟩
    | error err =>
        by_cases haction : packet.action = .updateObject ∨ packet.action = .itemTransfer
        · left
          rw [hfailed err hres (by rcases haction with ha | ha <;> simp [ha, objectActions])]
          exact ⟨g, hk, ho⟩
        · exact Or.inr ⟨hexempt, fun ha => absurd ha haction⟩

/-- The second player of a game asks to delete an object of the first. -/
theorem ownership_safe_delete : ∃ srv reply o, ServerReachable srv ∧
    srv.onUpdate (Env.atTime 0) 8 (request .deleteObject [5, 0, 194, 4, 0, 0, 0, 0]) = some reply ∧
    o.playerBindId = 1 ∧
    (Kept reply.srv 1 0x04c20005#32 o ∨ ∃ game player,
      Exempt (request .deleteObject [5, 0, 194, 4, 0, 0, 0, 0]) 8 1 game player 2 reply.srv 1
        0x04c20005#32 o) := by
  have hplay : (((play (Server.new 0)
      [(Env.atTime 0, ask 7 .attachToGame [0, 0, 0, 0]),
        (Env.atTime 0, ask 8 .attachToGame [1, 0, 0, 0]),
        (Env.atTime 0, ask 7 .createObject [5, 0, 194, 4, 0, 0, 0, 0, 0, 0, 0, 0, 0, 0])]).map Prod.fst).bind
      fun srv => do
        let entry ← srv.getGameByClientid 8
        let player ← entry.2.getPlayer 8
        let b ← player.bindId
        let o ← entry.2.vanjects.lookup 0x04c20005#32
        let _ ← srv.onUpdate (Env.atTime 0) 8 (request .deleteObject [5, 0, 194, 4, 0, 0, 0, 0])
        some (entry.1, b, o.playerBindId)) = some (1, 2, 1) := by
    decide +kernel
  obtain ⟨srv, tr, hrun, hfacts⟩ := play_bind hplay
  simp only [Option.bind_eq_bind, Option.bind_eq_some_iff, Option.some.injEq,
    Prod.mk.injEq] at hfacts
  obtain ⟨⟨key, game⟩, hgame, player, hplayer, b, hb, o, ho, reply, hreply, rfl, rfl, howner⟩ :=
    hfacts
  have hreach : ServerReachable srv := ⟨0, tr, hrun⟩
  have hne : o.playerBindId ≠ 2 := by rw [howner]; decide
  refine ⟨srv, reply, o, hreach, hreply, howner, ?_⟩
  rcases ownership_safe hreach ⟨hgame, hplayer, hb⟩ hreply
    (Server.getGameByClientid_lookup hgame) ho hne with hkept | ⟨hexempt, -⟩
  · exact Or.inl hkept
  · exact Or.inr ⟨game, player, hexempt⟩

end VangersSrv
