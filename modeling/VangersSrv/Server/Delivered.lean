/-
Who is sent what, exactly.

A notification goes through the list of the connected clients and queues its packet to those
whose id is among the receivers.  `toConnections` is what the connections of one client id get
of it: each of them gets every packet once, in order.
-/
import VangersSrv.Server.Told

namespace VangersSrv

/-- The packets as the connections of a client id get them: every one of them gets each packet. -/
def Server.toConnections (srv : Server) (x : ClientID) (packets : List Packet) : List Packet :=
  packets.flatMap fun p => List.replicate (srv.connected.count x) p

section

variable {srv : Server} {x c : ClientID} {key : GameID} {game : Game} {packet : Packet}
  {packets packets' : List Packet} {sent sent' : List Sent} {realtime : Bool}

theorem toConnections_of_not_connected (h : x ∉ srv.connected) :
    srv.toConnections x packets = [] := by
  unfold Server.toConnections
  rw [List.count_eq_zero_of_not_mem h]
  simp

@[simp] theorem toConnections_nil : srv.toConnections x [] = [] := rfl

theorem toConnections_append :
    srv.toConnections x (packets ++ packets')
      = srv.toConnections x packets ++ srv.toConnections x packets' := by
  simp [Server.toConnections]

/-- A connection that is there gets something. -/
theorem toConnections_eq_nil :
    srv.toConnections x packets = [] ↔ packets = [] ∨ x ∉ srv.connected := by
  simp only [Server.toConnections, List.flatMap_eq_nil_iff, List.replicate_eq_nil_iff,
    List.count_eq_zero]
  constructor
  · intro h
    cases packets with
    | nil => exact Or.inl rfl
    | cons p packets => exact Or.inr (h p List.mem_cons_self)
  · rintro (rfl | h)
    · exact fun p hp => absurd hp List.not_mem_nil
    · exact fun _ _ => h

/-! ### One occasion after the other -/

theorem packetsTo_append : packetsTo x (sent ++ sent') = packetsTo x sent ++ packetsTo x sent' := by
  simp [packetsTo]

/-- Packets to the same receivers, one after the other. -/
theorem packetsTo_flatMap {f : Packet → List Sent}
    (h : ∀ p, packetsTo x (f p) = srv.toConnections x [p]) :
    packetsTo x (packets.flatMap f) = srv.toConnections x packets := by
  induction packets with
  | nil => rfl
  | cons p packets ih =>
      rw [List.flatMap_cons, packetsTo_append, h, ih, ← toConnections_append]
      rfl

theorem packetsTo_flatMap_nil {f : Packet → List Sent} (h : ∀ p, packetsTo x (f p) = []) :
    packetsTo x (packets.flatMap f) = [] := by
  induction packets with
  | nil => rfl
  | cons p packets ih => rw [List.flatMap_cons, packetsTo_append, h, ih, List.append_nil]

/-! ### One notification -/

theorem packetsTo_sendTo {ids : List ClientID} :
    packetsTo x (srv.sendTo ids packet realtime)
      = if x ∈ ids then srv.toConnections x [packet] else [] := by
  have hclients : packetsTo x (srv.sendTo ids packet realtime)
      = (srv.clients.filter fun cl => x ∈ ids ∧ cl.id = x).map fun _ => packet := by
    unfold packetsTo Server.sendTo
    rw [List.filter_map, List.map_map, List.filter_filter]
    refine congrArg (List.map _) (List.filter_congr fun cl _ => ?_)
    by_cases hid : cl.id = x
    · simp [hid]
    · simp [hid]
  rw [hclients]
  split
  · rename_i hmem
    simp only [Server.toConnections, Server.connected, List.count_eq_countP, List.countP_map, hmem,
      true_and, List.flatMap_cons, List.flatMap_nil, List.append_nil, List.map_const']
    rw [List.countP_eq_length_filter]
    rfl
  · rename_i hmem
    simp [hmem]

theorem packetsTo_notify {filter : ClientID → Bool}
    (hgame : srv.getGameByClientid c = some (key, game)) :
    packetsTo x (srv.notify c packet filter realtime)
      = if x ∈ game.clientIds ∧ filter x = true then srv.toConnections x [packet] else [] := by
  unfold Server.notify
  rw [hgame]
  dsimp only
  rw [packetsTo_sendTo]
  simp only [List.mem_filter]
  rfl

/-- The game but the sender. -/
theorem packetsTo_notifyGame (hgame : srv.getGameByClientid c = some (key, game)) :
    packetsTo x (srv.notifyGame c packet)
      = if x ∈ game.clientIds ∧ x ≠ c then srv.toConnections x [packet] else [] := by
  rw [Server.notifyGame, packetsTo_notify hgame]
  simp only [decide_eq_true_eq]

theorem packetsTo_notifyPlayer (hgame : srv.getGameByClientid c = some (key, game)) :
    packetsTo x (srv.notifyPlayer c packet)
      = if x = c then srv.toConnections x [packet] else [] := by
  obtain ⟨p, hp⟩ := Server.getGameByClientid_getPlayer hgame
  have hc : c ∈ game.clientIds := Game.mem_clientIds hp
  rw [Server.notifyPlayer, packetsTo_notify hgame]
  simp only [decide_eq_true_eq]
  refine if_congr ⟨fun h => h.2, ?_⟩ rfl rfl
  rintro rfl
  exact ⟨hc, rfl⟩

/-- Whoever has a player in a game is told. -/
theorem packetsTo_notifyPlayer_holder {q : Player} (hlookup : srv.games.lookup key = some game)
    (hq : q ∈ game.players) (hc : q.clientId = c) :
    packetsTo c (srv.notifyPlayer c packet) = srv.toConnections c [packet] := by
  obtain ⟨⟨key', game'⟩, hgame⟩ : ∃ entry, srv.getGameByClientid c = some entry := by
    refine Option.ne_none_iff_exists'.mp fun hnone => ?_
    exact Server.getGameByClientid_eq_none.mp hnone key game hlookup q hq hc
  rw [packetsTo_notifyPlayer hgame, if_pos rfl]

theorem packetsTo_notifyAll (hgame : srv.getGameByClientid c = some (key, game)) :
    packetsTo x (srv.notifyAll c packet)
      = if x ∈ game.clientIds then srv.toConnections x [packet] else [] := by
  rw [Server.notifyAll, packetsTo_notify hgame]
  simp only [and_true]

/-- The players in a world but the sender. -/
theorem packetsTo_notifyWorld {w : UInt8} (hgame : srv.getGameByClientid c = some (key, game)) :
    packetsTo x (srv.notifyWorld c w packet false realtime)
      = if x ≠ c ∧ ∃ q ∈ game.players, q.clientId = x ∧ q.worldId = some w then
          srv.toConnections x [packet]
        else [] := by
  unfold Server.notifyWorld
  rw [hgame]
  dsimp only
  rw [packetsTo_sendTo]
  refine if_congr ?_ rfl rfl
  simp only [Server.clientIdsInWorld, List.mem_map, List.mem_filter, decide_eq_true_eq,
    Bool.false_or, ne_eq, Option.some.injEq]
  constructor
  · rintro ⟨q, ⟨⟨hq, hw⟩, hne⟩, rfl⟩
    exact ⟨hne, q, hq, rfl, hw⟩
  · rintro ⟨hne, q, hq, rfl, hw⟩
    exact ⟨q, ⟨⟨hq, hw⟩, hne⟩, rfl⟩

end

end VangersSrv
