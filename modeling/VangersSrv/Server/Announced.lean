/-
What is created is announced.

`create_object` stores a new object at its end, whatever it has decided on the way about whom to
tell.  Every way there tells the players that have the object in sight but one: a VANGER whose
body is too short for a player's body is stored without a word.
-/
import VangersSrv.Server.Delivered
import VangersSrv.Server.Vocabulary

namespace VangersSrv

/-- The other connections with a player in the object's world, or in the game when it is global. -/
def Hears (game : Game) (c : ClientID) (v : Vanject) (x : ClientID) : Prop :=
  x ≠ c ∧ ∃ q ∈ game.players, q.clientId = x ∧ (v.isNonGlobal = true → q.worldId = some (worldOf v.id))

instance (game : Game) (c : ClientID) (v : Vanject) (x : ClientID) : Decidable (Hears game c v x) := by
  unfold Hears
  infer_instance

/-- A packet with the bytes of an object. -/
def Carries (p : Packet) (v : Vanject) : Prop :=
  p.action ∈ [Action.updateObject, .itemState] ∧ v.toVangersByte <:+ p.data

/-- The new object is stored, and those that should hear of it are sent one packet that carries
it, and nobody else is sent anything. -/
structure Announces (srv : Server) (c : ClientID) (key : GameID) (game : Game) (v : Vanject)
    (r : Reply) : Prop where
  stored : ∃ game', r.srv.games.lookup key = some game' ∧ game'.vanjects.lookup v.id = some v
  told : ∃ p, Carries p v ∧ ∀ x, Hears game c v x → packetsTo x r.sent = srv.toConnections x [p]
  others : ∀ x, ¬ Hears game c v x → packetsTo x r.sent = []

/-- Nothing changes, and the sender alone gets the object as it is stored; after a VANGER comes
its position. -/
structure Replays (srv : Server) (c : ClientID) (old : Vanject) (r : Reply) : Prop where
  unchanged : r.srv = srv
  told : ∃ p positions, Carries p old ∧ packetsTo c r.sent = srv.toConnections c (p :: positions) ∧
    (∀ q ∈ positions, q.action = .playersPosition)
  others : ∀ x, x ≠ c → packetsTo x r.sent = []

section

variable {srv : Server} {c x : ClientID} {key : GameID} {game : Game} {player : Player}
  {packet p : Packet} {v : Vanject} {b : UInt8} {r : Reply}

theorem carries_statePacket (h : statePacket v = some p) : Carries p v := by
  unfold statePacket at h
  split at h
  · obtain ⟨haction, hdata, -⟩ := Packet.new_eq_some h
    exact ⟨by simp [haction], by rw [hdata]; exact List.suffix_append _ _⟩
  · obtain ⟨haction, hdata, -⟩ := Packet.new_eq_some h
    exact ⟨by simp [haction], hdata ▸ List.suffix_refl _⟩

/-- The players of other connections are as they were. -/
theorem exists_modifyPlayer {P : Player → Prop} {f : Player → Player} (hx : x ≠ c)
    (hf : ∀ q, game.getPlayer c = some q → (f q).clientId = c) :
    (∃ q ∈ (game.modifyPlayer c f).players, q.clientId = x ∧ P q) ↔
      ∃ q ∈ game.players, q.clientId = x ∧ P q := by
  constructor
  · rintro ⟨q, hq, hid, hP⟩
    rcases List.mem_modifyFirst hq with hmem | ⟨a, ha, rfl⟩
    · exact ⟨q, hmem, hid, hP⟩
    · exact absurd (hid.symm.trans (hf a ha)) hx
  · rintro ⟨q, hq, hid, hP⟩
    refine ⟨q, List.mem_modifyFirst_of_ne hq fun a ha heq => hx ?_, hid, hP⟩
    rw [← hid, heq]
    exact Game.getPlayer_clientId ha

/-- **An object's packet goes to those that hear of it.** -/
theorem packetsTo_notifyObject (hgame : srv.getGameByClientid c = some (key, game)) :
    (Hears game c v x → packetsTo x (srv.notifyObject c v.id p) = srv.toConnections x [p]) ∧
      (¬ Hears game c v x → packetsTo x (srv.notifyObject c v.id p) = []) := by
  rw [Server.notifyObject_eq]
  unfold Hears Vanject.isNonGlobal
  split
  · rename_i hlocal
    rw [packetsTo_notifyWorld hgame]
    simp only [hlocal, true_imp_iff]
    exact ⟨fun h => if_pos h, fun h => if_neg h⟩
  · rename_i hglobal
    have hhears : (x ∈ game.clientIds ∧ x ≠ c) ↔ x ≠ c ∧ ∃ q ∈ game.players, q.clientId = x ∧
        (isNonGlobalVanject v.id = true → q.worldId = some (worldOf v.id)) := by
      simp [hglobal, Game.clientIds, and_comm]
    rw [← hhears, show srv.notify c p (fun c' => c' ≠ c) false = srv.notifyGame c p from rfl,
      packetsTo_notifyGame hgame]
    exact ⟨fun h => if_pos h, fun h => if_neg h⟩

theorem toConnections_setGame {packets : List Packet} {game' : Game} :
    (srv.setGame key game').toConnections x packets = srv.toConnections x packets := rfl

/-- What the accepting half announces: the object, unless a VANGER's body does not parse. -/
theorem createAccepted_sent (hacting : Acting srv c key game player b)
    (h : srv.createAccepted c key game player v = some r) :
    (v.getType = NID.vanger ∧ v.body.length < Body.getBaseStructSize ∧ r.sent = []) ∨
      ((v.getType = NID.vanger → Body.getBaseStructSize ≤ v.body.length) ∧
        ∃ p, statePacket v = some p ∧
          ∀ x, (Hears game c v x → packetsTo x r.sent = srv.toConnections x [p]) ∧
            (¬ Hears game c v x → packetsTo x r.sent = [])) := by
  unfold Server.createAccepted at h
  split at h
  · rename_i htype
    have hlocal : isNonGlobalVanject v.id = true := by
      rw [isNonGlobalVanject_of_type htype]
      decide
    have hitem : isItemVanject v = false := by
      unfold isItemVanject
      rw [htype]
      decide
    simp only [Option.bind_eq_bind, Option.bind_eq_some_iff] at h
    obtain ⟨⟨player', parsed⟩, hset, sent, hsent, srv', -, h⟩ := h
    obtain ⟨body, hbody, rfl, rfl⟩ := Player.setBody_eq_some hset
    obtain rfl := Server.complete_eq_some h
    have hshort := Body.fromSlice_isSome hbody
    unfold Server.announceVanger at hsent
    split at hsent
    · rename_i hparsed
      have hsome : body.isSome = true := hparsed
      rw [hsome, eq_comm, decide_eq_true_eq] at hshort
      obtain ⟨p, hp, rfl⟩ := Option.map_eq_some_iff.mp hsent
      refine Or.inr ⟨fun _ => hshort, p, by rw [statePacket, hitem]; exact hp, fun x => ?_⟩
      have hclient : player.clientId = c := Game.getPlayer_clientId hacting.found
      -- the player is written back before the packet goes out
      have hfound : (game.modifyPlayer c fun _ => { player with pos := v.pos, body }).getPlayer c
          = some { player with pos := v.pos, body } :=
        Game.getPlayer_modifyPlayer hacting.found rfl
      have hgame := Server.getGameByClientid_setGame hacting.inGame ⟨_, hfound⟩
      have hnotify := packetsTo_notifyObject (x := x) (p := p) (v := v) hgame
      rw [Server.notifyObject_local hlocal, toConnections_setGame] at hnotify
      have hhears : Hears (game.modifyPlayer c fun _ => { player with pos := v.pos, body }) c v x
          ↔ Hears game c v x :=
        and_congr_right fun hx => exists_modifyPlayer hx fun _ _ => hclient
      rwa [hhears] at hnotify
    · rename_i hparsed
      have hnone : body.isSome = false := by simpa using hparsed
      rw [hnone, eq_comm, decide_eq_false_iff_not, Nat.not_le] at hshort
      exact Or.inl ⟨htype, hshort, (Option.some.inj hsent).symm⟩
  · rename_i htype
    simp only [Option.bind_eq_bind, Option.bind_eq_some_iff] at h
    obtain ⟨p, hp, srv', -, h⟩ := h
    obtain rfl := Server.complete_eq_some h
    exact Or.inr ⟨fun hvanger => absurd hvanger htype, p, hp, fun x =>
      packetsTo_notifyObject hacting.inGame⟩

/-- A create request for an id that is stored. -/
theorem replays {packets : List Packet} {old : Vanject}
    (hgame : srv.getGameByClientid c = some (key, game)) (hpackets : replayPackets old = some packets) :
    Replays srv c old { srv, sent := packets.flatMap (srv.notifyPlayer c), result := .ok .complete } := by
  have hplayer : ∀ x p, packetsTo x (srv.notifyPlayer c p)
      = if x = c then srv.toConnections x [p] else [] := fun _ _ => packetsTo_notifyPlayer hgame
  refine { unchanged := rfl, told := ?_, others := ?_ }
  · have hsent : packetsTo c (packets.flatMap (srv.notifyPlayer c)) = srv.toConnections c packets :=
      packetsTo_flatMap fun q => by rw [hplayer, if_pos rfl]
    obtain ⟨state, positions, rfl, hstate, hpositions⟩ := replayPackets_eq_some hpackets
    exact ⟨state, positions, carries_statePacket hstate, hsent, fun q hq =>
      (Packet.new_eq_some (hpositions q hq)).1⟩
  · intro x hx
    exact packetsTo_flatMap_nil fun q => by rw [hplayer, if_neg hx]

/-- A new object is announced as it is stored, unless it is a VANGER whose body does not parse and
somebody should have heard of it. -/
theorem announces_iff (hacting : Acting srv c key game player b)
    (h : srv.createAccepted c key game player v = some r) :
    Announces srv c key game v r ↔
      (v.getType = NID.vanger → Body.getBaseStructSize ≤ v.body.length ∨
        ∀ x ∈ srv.connected, ¬ Hears game c v x) := by
  obtain ⟨game', hsrv, hvanjects⟩ := createAccepted_stores hacting.inGame hacting.found h
  have hstored : ∃ game', r.srv.games.lookup key = some game' ∧
      game'.vanjects.lookup v.id = some v := by
    refine ⟨game', ?_, by rw [hvanjects, AList.lookup_insert]⟩
    rw [hsrv]
    exact Server.lookup_setGame_self (Server.getGameByClientid_lookup hacting.inGame)
  rcases createAccepted_sent hacting h with ⟨hvanger, hshort, hsent⟩ | ⟨hlong, p, hp, hsent⟩
  · constructor
    · rintro ⟨-, ⟨p, -, htold⟩, -⟩ -
      refine Or.inr fun x hx hhears => ?_
      have hnothing := htold x hhears
      rw [hsent] at hnothing
      exact (toConnections_eq_nil.mp hnothing.symm).elim (List.cons_ne_nil _ _) fun hnot => hnot hx
    · intro hcond
      have hnobody := (hcond hvanger).resolve_left (Nat.not_le.mpr hshort)
      refine { stored := hstored, told := ?_, others := fun x _ => by rw [hsent]; rfl }
      refine ⟨request .updateObject v.toVangersByte, ⟨List.mem_cons_self, List.suffix_refl _⟩,
        fun x hhears => ?_⟩
      rw [hsent, toConnections_of_not_connected fun hx => hnobody x hx hhears]
      rfl
  · refine ⟨fun _ hvanger => Or.inl (hlong hvanger), fun _ => ?_⟩
    exact {
      stored := hstored
      told := ⟨p, carries_statePacket hp, fun x => (hsent x).1⟩
      others := fun x => (hsent x).2 }

end

/-- **CREATE_OBJECT stores what it announces**, except that a VANGER whose body is too short is
stored unannounced; a stored id is left as it is and shown to the sender. -/
theorem createObject_announces_iff {srv : Server} {packet : Packet} {c : ClientID} {r : Reply}
    {ok : OnUpdateOk} (hreach : ServerReachable srv) (h : srv.createObject packet c = some r)
    (hok : r.result = .ok ok) :
    ∃ key game player b v, Acting srv c key game player b ∧
      Vanject.createFromSlice packet.data = some (.ok v) ∧
      (∀ old, game.vanjects.lookup v.id = some old → Replays srv c old r) ∧
      (game.vanjects.lookup v.id = none →
        (Announces srv c key game { v with playerBindId := b } r ↔
          (v.getType = NID.vanger → Body.getBaseStructSize ≤ v.body.length ∨
            ∀ x ∈ srv.connected, ¬ Hears game c v x))) := by
  rcases createObject_cases h with ⟨err, hfail⟩ |
    ⟨key, game, v, old, packets, hgame, hparse, hlookup, hpackets, hdone⟩ |
    ⟨key, game, player, b, v, hacting, hparse, hnew, -, haccepted⟩
  · exact absurd hok (Server.fail_ne_ok hfail)
  · obtain ⟨player, b, hacting⟩ := hreach.registryOk.exists_acting hgame
    refine ⟨key, game, player, b, v, hacting, hparse, fun old' hold' => ?_, fun hnew => ?_⟩
    · obtain rfl := Option.some.inj (hlookup.symm.trans hold')
      obtain rfl := Server.complete_eq_some hdone
      exact replays hgame hpackets
    · exact absurd (hlookup.symm.trans hnew) (Option.some_ne_none _)
  · refine ⟨key, game, player, b, v, hacting, hparse, fun old hold => ?_, fun _ => ?_⟩
    · exact absurd (hold.symm.trans hnew) (Option.some_ne_none _)
    · exact announces_iff hacting haccepted

/-- The other player of the world is told of a new DEVICE. -/
theorem createObject_announces_device : ∃ srv r key game v, ServerReachable srv ∧
    srv.createObject makeDevice 7 = some r ∧ Announces srv 7 key game v r := by
  have hplay : ((play (Server.new 0) twoInWorld).map Prod.fst).bind (fun srv => do
      let entry ← srv.getGameByClientid 7
      let r ← srv.createObject makeDevice 7
      let parsed ← Vanject.createFromSlice makeDevice.data
      let v ← parsed.toOption
      some (r.result.toOption, decide (entry.2.vanjects.lookup v.id = none),
        decide (v.getType = NID.vanger))) = some (some .complete, true, false) := by
    decide +kernel
  obtain ⟨srv, tr, hrun, hfacts⟩ := play_bind hplay
  simp only [Option.bind_eq_bind, Option.bind_eq_some_iff, Option.some.injEq, Prod.mk.injEq,
    decide_eq_true_eq, decide_eq_false_iff_not] at hfacts
  obtain ⟨entry, hentry, r, hr, parsed, hparsed, v, hv, hres, hnew, htype⟩ := hfacts
  have hreach : ServerReachable srv := ⟨0, tr, hrun⟩
  obtain ⟨key, game, player, b, v', hacting, hparse, -, hannounced⟩ :=
    createObject_announces_iff hreach hr (ok_of_toOption hres)
  obtain rfl : entry = (key, game) := Option.some.inj (hentry.symm.trans hacting.inGame)
  have hsame := (congrArg some (ok_of_toOption hv)).symm.trans (hparsed.symm.trans hparse)
  obtain rfl : v = v' := Except.ok.inj (Option.some.inj hsame)
  exact ⟨srv, r, key, game, _, hreach, hr,
    (hannounced hnew).mpr fun hvanger => absurd hvanger htype⟩

/-- A VANGER without a body. -/
def bareVanger : Packet := request .createObject [0, 0, 9, 4, 0, 0, 0, 0, 0, 0, 0, 0, 0, 0, 0, 0]

/-- The VANGER is stored, and the other player of its world is not told. -/
theorem createObject_unannounced : ∃ srv r game v, ServerReachable srv ∧
    srv.createObject bareVanger 7 = some r ∧ r.result = .ok .complete ∧
    srv.getGameByClientid 7 = some (1, game) ∧
    Vanject.createFromSlice bareVanger.data = some (.ok v) ∧ game.vanjects.lookup v.id = none ∧
    ¬ Announces srv 7 1 game { v with playerBindId := 1 } r := by
  have hplay : ((play (Server.new 0) twoInWorld).map Prod.fst).bind (fun srv => do
      let entry ← srv.getGameByClientid 7
      let r ← srv.createObject bareVanger 7
      let parsed ← Vanject.createFromSlice bareVanger.data
      let v ← parsed.toOption
      some (r.result.toOption, entry.1, decide (entry.2.vanjects.lookup v.id = none ∧
        Hears entry.2 7 { v with playerBindId := 1 } 8 ∧ 8 ∈ srv.connected ∧ r.sent = [])))
      = some (some .complete, 1, true) := by
    decide +kernel
  obtain ⟨srv, tr, hrun, hfacts⟩ := play_bind hplay
  simp only [Option.bind_eq_bind, Option.bind_eq_some_iff, Option.some.injEq, Prod.mk.injEq,
    decide_eq_true_eq, Prod.exists] at hfacts
  obtain ⟨_, game, hgame, r, hr, parsed, hparsed, v, hv, hres, rfl, hnew, hhears, hconnected, hsent⟩ :=
    hfacts
  refine ⟨srv, r, game, v, ⟨0, tr, hrun⟩, hr, ok_of_toOption hres, hgame, ?_, hnew, ?_⟩
  · rw [hparsed, ok_of_toOption hv]
  · rintro ⟨-, ⟨p, -, htold⟩, -⟩
    have hnothing := htold 8 hhears
    rw [hsent] at hnothing
    exact (toConnections_eq_nil.mp hnothing.symm).elim (List.cons_ne_nil _ _)
      fun hnot => hnot hconnected

end VangersSrv
