/-
What the players of a game are told of its objects.

A client keeps a replica of the objects it was told about.  `Packet.write` is what a packet
does to it, and the notifications of a request are one write or none for every connection:
the object's world is told of an object that is not global, and the whole game of one that
is, the sender excepted.
-/
import VangersSrv.Server.Holders
import VangersSrv.Server.Registration
import VangersSrv.Lib.Replica

namespace VangersSrv

open Replica

/-! ### What a packet tells -/

/-- What a client knows of an object beside its id: owner, time, position and body. -/
def Vanject.entry (v : Vanject) : Bytes := v.toVangersByte.drop 4

theorem Vanject.entry_eq (v : Vanject) : v.entry = [v.playerBindId] ++ toLeBytes32 v.time
    ++ toLeBytes16 v.pos.x ++ toLeBytes16 v.pos.y ++ v.body := by
  unfold Vanject.entry Vanject.toVangersByte
  simp only [List.append_assoc]
  exact List.drop_left' (by simp)

/-- The objects of a game as a client would know them. -/
def storedView (vanjects : Vanjects) : View I32 Bytes := fun id => (vanjects.lookup id).map Vanject.entry

/-- What a packet does to the replica of a client that receives it. -/
def Packet.write (p : Packet) : Write I32 Bytes :=
  match p.action with
  | .worldSnapshotBegin => .clear
  | .updateObject =>
    match sliceLeToI32 (p.data.take 4) with
    | some id => .put id (p.data.drop 4)
    | none => .skip
  | .itemState =>
    match sliceLeToI32 ((p.data.drop 1).take 4), sliceLeToI32 ((p.data.drop 5).take 4) with
    | some previousId, some id =>
      if previousId = 0 then .put id (p.data.drop 9)
      else (Write.drop previousId).andThen (.put id (p.data.drop 9))
    | _, _ => .skip
  | .deleteObject | .itemRemoved =>
    match sliceLeToI32 (p.data.take 4) with
    | some id => .drop id
    | none => .skip
  | _ => .skip

/-- What the packets sent on an occasion do to the replica of one client. -/
def sentTo (x : ClientID) (sent : List Sent) : Write I32 Bytes :=
  Write.all ((packetsTo x sent).map Packet.write)

section

variable {p packet : Packet} {v : Vanject} {id oldId : I32} {b : UInt8} {x c : ClientID}
  {sent sent' : List Sent} {srv : Server} {key : GameID} {game : Game} {realtime : Bool}

theorem write_quiet (h : p.Quiet) : p.write = .skip := by
  unfold Packet.write
  simp only [Packet.Quiet, List.mem_cons, List.not_mem_nil, or_false, not_or] at h
  obtain ⟨hupdate, hdelete, -, hstate, hremoved, hbegin⟩ := h
  split <;> first | contradiction | rfl

theorem take_append_toLeBytes32 {s : Bytes} : sliceLeToI32 ((toLeBytes32 id ++ s).take 4) = some id := by
  rw [List.take_append_of_le_length (by simp), List.take_of_length_le (by simp)]
  exact sliceLeToI32_toLeBytes32 id

theorem toVangersByte_eq (v : Vanject) : v.toVangersByte = toLeBytes32 v.id ++ v.entry := by
  rw [Vanject.entry, ← Vanject.take_toVangersByte, List.take_append_drop]

theorem write_updateObject (h : Packet.new .updateObject v.toVangersByte = some p) :
    p.write = .put v.id v.entry := by
  obtain ⟨haction, hdata, -⟩ := Packet.new_eq_some h
  unfold Packet.write
  rw [haction, hdata]
  dsimp only
  rw [toVangersByte_eq, take_append_toLeBytes32, List.drop_left' (by simp)]

/-- The state of an item replaces that of the form it had. -/
theorem write_itemState (h : itemStatePacket oldId v = some p) :
    p.write = if oldId = 0 then .put v.id v.entry
      else (Write.drop oldId).andThen (.put v.id v.entry) := by
  obtain ⟨haction, hdata, -⟩ := Packet.new_eq_some h
  have hdrop₁ : p.data.drop 1 = toLeBytes32 oldId ++ v.toVangersByte := by
    rw [hdata]
    rfl
  have hdrop₅ : p.data.drop 5 = toLeBytes32 v.id ++ v.entry := by
    rw [← toVangersByte_eq, show 5 = 1 + 4 from rfl, ← List.drop_drop, hdrop₁]
    exact List.drop_left' (by simp)
  have hdrop₉ : p.data.drop 9 = v.entry := by
    rw [show 9 = 5 + 4 from rfl, ← List.drop_drop, hdrop₅]
    exact List.drop_left' (by simp)
  unfold Packet.write
  rw [haction]
  dsimp only
  rw [hdrop₁, hdrop₅, hdrop₉, take_append_toLeBytes32, take_append_toLeBytes32]

theorem write_statePacket (h : statePacket v = some p) : p.write = .put v.id v.entry := by
  unfold statePacket at h
  split at h
  · rw [write_itemState h, if_pos rfl]
  · exact write_updateObject h

theorem write_deleteObject {s : Bytes} (h : Packet.new .deleteObject (toLeBytes32 id ++ s) = some p) :
    p.write = .drop id := by
  obtain ⟨haction, hdata, -⟩ := Packet.new_eq_some h
  unfold Packet.write
  rw [haction, hdata]
  dsimp only
  rw [take_append_toLeBytes32]

theorem write_deletePacket (h : deletePacket packet id b = some p) : p.write = .drop id := by
  unfold deletePacket at h
  simp only [Option.bind_eq_bind, Option.bind_eq_some_iff] at h
  obtain ⟨time, -, rest, -, h⟩ := h
  rw [List.append_assoc, List.append_assoc] at h
  exact write_deleteObject h

theorem write_itemRemoved {reason : UInt8} (h : itemRemovedPacket v reason = some p) :
    p.write = .drop v.id := by
  obtain ⟨haction, hdata, -⟩ := Packet.new_eq_some h
  unfold Packet.write
  rw [haction, hdata]
  dsimp only
  rw [List.append_assoc, take_append_toLeBytes32]

theorem write_leaveDeletes {vanjects : Vanjects} {deletes : List (I32 × Packet)}
    (h : leaveDeletes vanjects b = some deletes) {e : I32 × Packet} (he : e ∈ deletes) :
    e.2.write = .drop e.1 := by
  obtain ⟨v, -, -, hpacket⟩ := leaveDeletes_packet h he
  rw [List.append_assoc] at hpacket
  exact write_deleteObject hpacket

/-- A duplicate create request is answered with what is stored. -/
theorem write_replayPackets {packets : List Packet} (h : replayPackets v = some packets)
    (hp : p ∈ packets) : p.write = .put v.id v.entry ∨ p.write = .skip := by
  obtain ⟨state, positions, rfl, hstate, hpositions⟩ := replayPackets_eq_some h
  rcases List.mem_cons.mp hp with rfl | hp
  · exact Or.inl (write_statePacket hstate)
  · exact Or.inr (write_quiet (quiet_new (hpositions p hp) (by decide)))

/-! ### Who is told -/

theorem mem_packetsTo : p ∈ packetsTo x sent ↔ ∃ s ∈ sent, s.client = x ∧ s.packet = p := by
  simp [packetsTo, and_assoc]

@[simp] theorem sentTo_nil : sentTo x [] = .skip := rfl

theorem sentTo_append : sentTo x (sent ++ sent') = (sentTo x sent).andThen (sentTo x sent') := by
  simp [sentTo, packetsTo, Write.all_append]

/-- Packets for one thing after the other. -/
theorem sentTo_flatMap {α : Type} {l : List α} {f : α → List Sent} :
    sentTo x (l.flatMap f) = Write.all (l.map fun a => sentTo x (f a)) := by
  induction l with
  | nil => rfl
  | cons a rest ih => rw [List.flatMap_cons, sentTo_append, ih, List.map_cons, Write.all_cons]

theorem sentTo_quiet (h : ∀ s ∈ sent, s.packet.Quiet) : sentTo x sent = .skip := by
  refine Write.all_eq_skip fun w hw => ?_
  obtain ⟨q, hq, rfl⟩ := List.mem_map.mp hw
  obtain ⟨s, hs, rfl⟩ := List.mem_map.mp hq
  exact write_quiet (h s (List.mem_filter.mp hs).1)

theorem sentTo_of_forall_ne (h : ∀ s ∈ sent, s.client ≠ x) : sentTo x sent = .skip := by
  have hnone : packetsTo x sent = [] := by
    unfold packetsTo
    rw [List.map_eq_nil_iff, List.filter_eq_nil_iff]
    simpa using h
  rw [sentTo, hnone]
  rfl

/-- One packet to many: a connection among them is told it, and another one nothing. -/
theorem sentTo_sendTo {ids : List ClientID} : sentTo x (srv.sendTo ids packet realtime)
    = if x ∈ ids ∧ x ∈ srv.connected then packet.write else .skip := by
  split
  · rename_i h
    obtain ⟨hids, hx⟩ := h
    obtain ⟨client, hclient, rfl⟩ := List.mem_map.mp hx
    have hall : ∀ w ∈ (packetsTo client.id (srv.sendTo ids packet realtime)).map Packet.write,
        w = packet.write := by
      intro w hw
      obtain ⟨q, hq, rfl⟩ := List.mem_map.mp hw
      obtain ⟨s, hs, rfl⟩ := List.mem_map.mp hq
      rw [(Server.mem_sendTo.mp (List.mem_filter.mp hs).1).2.2.1]
    rw [sentTo, Write.all_eq_of_forall hall, if_neg]
    have hmem : (⟨client.id, packet, realtime⟩ : Sent) ∈ srv.sendTo ids packet realtime :=
      Server.mem_sendTo.mpr ⟨⟨client, hclient, rfl⟩, hids, rfl, rfl⟩
    have hpacket : packet ∈ packetsTo client.id (srv.sendTo ids packet realtime) :=
      mem_packetsTo.mpr ⟨_, hmem, rfl, rfl⟩
    exact List.ne_nil_of_mem (List.mem_map_of_mem hpacket)
  · rename_i h
    refine sentTo_of_forall_ne fun s hs => ?_
    obtain ⟨⟨client, hclient, hid⟩, hids, -, -⟩ := Server.mem_sendTo.mp hs
    rintro rfl
    exact h ⟨hids, List.mem_map.mpr ⟨client, hclient, hid⟩⟩

theorem sentTo_notify {filter : ClientID → Bool} (hgame : srv.getGameByClientid c = some (key, game)) :
    sentTo x (srv.notify c packet filter realtime)
      = if (x ∈ game.clientIds ∧ filter x = true) ∧ x ∈ srv.connected then packet.write else .skip := by
  unfold Server.notify
  rw [hgame]
  dsimp only
  rw [sentTo_sendTo]
  simp only [List.mem_filter]
  rfl

/-- Only the caller is told what is sent to the caller. -/
theorem sentTo_notifyPlayer (hgame : srv.getGameByClientid c = some (key, game))
    (hc : c ∈ srv.connected) :
    sentTo x (srv.notifyPlayer c packet) = if x = c then packet.write else .skip := by
  obtain ⟨p, hp⟩ := Server.getGameByClientid_getPlayer hgame
  rw [Server.notifyPlayer, sentTo_notify hgame]
  refine if_congr ?_ rfl rfl
  simp only [decide_eq_true_eq]
  constructor
  · exact fun h => h.1.2
  · rintro rfl
    exact ⟨⟨Game.mem_clientIds hp, rfl⟩, hc⟩

theorem mem_notifyPlayer (hgame : srv.getGameByClientid c = some (key, game))
    (hc : c ∈ srv.connected) : (⟨c, packet, false⟩ : Sent) ∈ srv.notifyPlayer c packet := by
  obtain ⟨p, hp⟩ := Server.getGameByClientid_getPlayer hgame
  obtain ⟨client, hclient, hid⟩ := List.mem_map.mp hc
  have hids : c ∈ (game.players.map Player.clientId).filter fun id => decide (id = c) := by
    refine List.mem_filter.mpr ⟨?_, by simp⟩
    exact Game.mem_clientIds hp
  unfold Server.notifyPlayer Server.notify
  rw [hgame]
  exact Server.mem_sendTo.mpr ⟨⟨client, hclient, hid⟩, hids, rfl, rfl⟩

theorem sentTo_notifyWorld {w : UInt8} (hgame : srv.getGameByClientid c = some (key, game)) :
    sentTo x (srv.notifyWorld c w packet false realtime)
      = if (∃ p ∈ game.players, p.worldId = some w ∧ p.clientId = x) ∧ x ≠ c ∧ x ∈ srv.connected
        then packet.write else .skip := by
  unfold Server.notifyWorld
  rw [hgame]
  dsimp only
  rw [sentTo_sendTo]
  have hids : x ∈ Server.clientIdsInWorld game w (some c) false ↔
      (∃ p ∈ game.players, p.worldId = some w ∧ p.clientId = x) ∧ x ≠ c := by
    simp only [Server.clientIdsInWorld, List.mem_map, List.mem_filter, decide_eq_true_eq,
      Bool.false_or, ne_eq, Option.some.injEq]
    constructor
    · rintro ⟨p, ⟨⟨hp, hw⟩, hne⟩, rfl⟩
      exact ⟨⟨p, hp, hw, rfl⟩, hne⟩
    · rintro ⟨⟨p, hp, hw, rfl⟩, hne⟩
      exact ⟨p, ⟨⟨hp, hw⟩, hne⟩, rfl⟩
  simp only [hids, and_assoc]

/-- A snapshot starts with a marker. -/
def SentSnapshot (x : ClientID) (sent : List Sent) : Prop :=
  ∃ q ∈ packetsTo x sent, q.action = .worldSnapshotBegin

instance (x : ClientID) (sent : List Sent) : Decidable (SentSnapshot x sent) := by
  unfold SentSnapshot
  infer_instance

theorem not_sentSnapshot (h : ∀ s ∈ sent, s.packet.action ≠ .worldSnapshotBegin) :
    ¬ SentSnapshot x sent := by
  rintro ⟨q, hq, hbegin⟩
  obtain ⟨s, hs, -, rfl⟩ := mem_packetsTo.mp hq
  exact h s hs hbegin

theorem sentSnapshot_append :
    SentSnapshot x (sent ++ sent') ↔ SentSnapshot x sent ∨ SentSnapshot x sent' := by
  simp only [SentSnapshot, mem_packetsTo, List.mem_append]
  constructor
  · rintro ⟨q, ⟨s, hs | hs, hx, hq⟩, hbegin⟩
    · exact Or.inl ⟨q, ⟨s, hs, hx, hq⟩, hbegin⟩
    · exact Or.inr ⟨q, ⟨s, hs, hx, hq⟩, hbegin⟩
  · rintro (⟨q, ⟨s, hs, hx, hq⟩, hbegin⟩ | ⟨q, ⟨s, hs, hx, hq⟩, hbegin⟩)
    · exact ⟨q, ⟨s, Or.inl hs, hx, hq⟩, hbegin⟩
    · exact ⟨q, ⟨s, Or.inr hs, hx, hq⟩, hbegin⟩

/-! ### Players in a world -/

/-- A player that stands in a world, and its connection. -/
structure InWorld (srv : Server) (x : ClientID) (k : GameID) (g : Game) (p : Player) (w : UInt8) :
    Prop where
  inGame : srv.games.lookup k = some g
  mem : p ∈ g.players
  client : p.clientId = x
  world : p.worldId = some w

/-- The objects a player in a world is told about: those of the world and the global ones. -/
def InSight (w : UInt8) (id : I32) : Prop := worldOf id = w ∨ isNonGlobalVanject id = false

/-- An object's packet goes to the players that have it in sight, and never back to its sender. -/
theorem sentTo_notifyObject (x : ClientID) (id : I32) (packet : Packet) (realtime : Bool)
    (hgame : srv.getGameByClientid c = some (key, game)) :
    (sentTo x (srv.notifyObject c id packet realtime) = packet.write ∨
        sentTo x (srv.notifyObject c id packet realtime) = .skip) ∧
      (x = c ∨ x ∉ game.clientIds → sentTo x (srv.notifyObject c id packet realtime) = .skip) ∧
      ∀ p ∈ game.players, p.clientId = x → x ≠ c → x ∈ srv.connected →
        ∀ w, p.worldId = some w → InSight w id →
          sentTo x (srv.notifyObject c id packet realtime) = packet.write := by
  rw [Server.notifyObject_eq]
  split
  · rename_i hlocal
    rw [sentTo_notifyWorld hgame]
    refine ⟨?_, ?_, ?_⟩
    · split
      · exact Or.inl rfl
      · exact Or.inr rfl
    · rintro (hself | hout)
      · exact if_neg fun h => h.2.1 hself
      · refine if_neg ?_
        rintro ⟨⟨p, hp, -, hc⟩, -⟩
        exact hout (List.mem_map.mpr ⟨p, hp, hc⟩)
    · intro p hp hc hne hx w hw hsight
      have hworld : worldOf id = w := hsight.resolve_right (by simp [hlocal])
      exact if_pos ⟨⟨p, hp, by rw [hworld]; exact hw, hc⟩, hne, hx⟩
  · rw [sentTo_notify hgame]
    refine ⟨?_, ?_, ?_⟩
    · split
      · exact Or.inl rfl
      · exact Or.inr rfl
    · rintro (hself | hout)
      · exact if_neg fun h => by simpa [hself] using h.1.2
      · exact if_neg fun h => hout h.1.1
    · intro p hp hc hne hx w _ _
      exact if_pos ⟨⟨List.mem_map.mpr ⟨p, hp, hc⟩, by simpa using hne⟩, hx⟩

end

end VangersSrv
