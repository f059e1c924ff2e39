/-
Entering and leaving worlds, and leaving the game: `set_world.rs`, `leave_world.rs`,
`close_socket.rs`.
-/
import VangersSrv.Callback.Objects
import VangersSrv.Callback.Queries

namespace VangersSrv

/-! ### leave_world -/

/-- The leaving player's inventory, and the private objects of its station. -/
def shouldDeleteOnLeaveWorld (v : Vanject) (playerBindId : UInt8) : Bool :=
  let isPlayersInventoryObject := v.isNonGlobal && v.isPlayers && v.playerBindId = playerBindId
  let isPrivateStationObject := v.getStation = asI32 playerBindId && v.isPrivate
  isPlayersInventoryObject || isPrivateStationObject

/-- The delete packet of every object that goes with the player, by id. -/
def leaveDeletes (vanjects : Vanjects) (playerBindId : UInt8) : Option (List (I32 × Packet)) :=
  (vanjects.entries.filter fun e => shouldDeleteOnLeaveWorld e.2 playerBindId).mapM fun e => do
    let packet ← Packet.new .deleteObject
      (toLeBytes32 e.1 ++ [playerBindId] ++ toLeBytes32 e.2.time)
    some (e.1, packet)

/-- There is a delete packet for each object that goes, under its key. -/
theorem keys_leaveDeletes {vanjects : Vanjects} {b : UInt8} {deletes : List (I32 × Packet)}
    (h : leaveDeletes vanjects b = some deletes) :
    deletes.map Prod.fst = (vanjects.entries.filter fun e =>
      shouldDeleteOnLeaveWorld e.2 b).map Sigma.fst := by
  have hall := mapM_eq_some.mp h
  rw [eq_comm, ← List.forall₂_eq_eq_eq, List.forall₂_map_left_iff, List.forall₂_map_right_iff]
  refine hall.imp ?_
  intro e d hd
  simp only [Option.bind_eq_bind, Option.bind_eq_some_iff, Option.some.injEq] at hd
  obtain ⟨packet, -, rfl⟩ := hd
  rfl

theorem mem_leaveDeletes {vanjects : Vanjects} {b : UInt8} {deletes : List (I32 × Packet)}
    (h : leaveDeletes vanjects b = some deletes) {id : I32} :
    id ∈ deletes.map Prod.fst ↔
      ∃ v, vanjects.lookup id = some v ∧ shouldDeleteOnLeaveWorld v b = true := by
  rw [keys_leaveDeletes h]
  simp only [List.mem_map, List.mem_filter]
  constructor
  · rintro ⟨e, ⟨he, hdel⟩, rfl⟩
    exact ⟨e.2, AList.mem_entries_iff.mp he, hdel⟩
  · rintro ⟨v, hv, hdel⟩
    exact ⟨⟨id, v⟩, ⟨AList.mem_entries_iff.mpr hv, hdel⟩, rfl⟩

/-- A delete packet says which object goes, whose number that is, and when it was stored. -/
theorem leaveDeletes_packet {vanjects : Vanjects} {b : UInt8} {deletes : List (I32 × Packet)}
    {e : I32 × Packet} (h : leaveDeletes vanjects b = some deletes) (he : e ∈ deletes) :
    ∃ v, vanjects.lookup e.1 = some v ∧ shouldDeleteOnLeaveWorld v b = true ∧
      Packet.new .deleteObject (toLeBytes32 e.1 ++ [b] ++ toLeBytes32 v.time) = some e.2 := by
  obtain ⟨entry, hentry, hpacket⟩ := (mem_mapM h).mp he
  simp only [Option.bind_eq_bind, Option.bind_eq_some_iff, Option.some.injEq] at hpacket
  obtain ⟨packet, hpacket, rfl⟩ := hpacket
  obtain ⟨hmem, hdelete⟩ := List.mem_filter.mp hentry
  exact ⟨entry.2, AList.mem_entries_iff.mp hmem, hdelete, hpacket⟩

namespace Server

def leaveWorld (env : Env) (srv : Server) (clientId : ClientID) : Option Reply :=
  match srv.getGameByClientid clientId with
  | none => srv.fail (.leaveWorld (.playerNotFound clientId))
  | some (key, game) => do
    let player ← game.getPlayer clientId
    match player.bindId with
    | none => srv.fail (.leaveWorld (.playerNotBind clientId))
    | some playerBindId =>
      match player.world with
      | none => srv.fail (.leaveWorld (.worldEmpty clientId))
      | some _ => do
        let delete ← leaveDeletes game.vanjects playerBindId
        let vanjects := game.vanjects.retain fun id _ => id ∉ delete.map Prod.fst
        let game' := game.modifyPlayer clientId fun p => { p with world := none }
        let srv' := srv.setGame key { game' with vanjects }
        let playersWorld ← Packet.new .playersWorld [playerBindId, 0]
        srv'.complete
          ((env.drain delete).flatMap (fun e => srv'.notifyGame clientId e.2)
            ++ srv'.notifyGame clientId playersWorld)

end Server

/-! ### close_socket -/

/-- The player as `close_socket` leaves it behind in the game. -/
def finishPlayer (p : Player) : Player :=
  { p with world := none, status := if p.status = .gaming then .finished else p.status }

/-- The snapshot of a leaving player replaces an older one of the same number. -/
def rememberPlayer (removed : List RemovedPlayer) (p : Player) : List RemovedPlayer :=
  match RemovedPlayer.fromPlayer p with
  | some snapshot => (removed.filter fun r => r.bindId ≠ snapshot.bindId) ++ [snapshot]
  | none => removed

/-- Writes the finished player back and remembers it. -/
def Game.finish (g : Game) (clientId : ClientID) (player : Player) : Game :=
  { g.modifyPlayer clientId fun _ => player with
    removedPlayers := rememberPlayer g.removedPlayers player }

/-- `game.players.retain(|p| p.client_id != client_id)` -/
def Game.without (g : Game) (clientId : ClientID) : Game :=
  { g with players := g.players.filter fun p => p.clientId ≠ clientId }

namespace Server

/-- Removes the player that just left its world; an empty game goes with its last player.
The entry under the game's own id is the one removed. -/
def removePlayer (srv : Server) (clientId : ClientID) : Option Server := do
  let (key, game) ← srv.getGameByClientid clientId
  let game' := game.without clientId
  if game'.players = [] then
    some { srv with games := (srv.games.replace key game').erase game'.id }
  else some (srv.setGame key game')

/-- A player that was in the game is announced as finished. -/
def announceFinished (srv : Server) (clientId : ClientID) (player : Player) (bindId : UInt8) :
    Option (List Sent) :=
  if player.status = .gaming then
    (Packet.new .playersStatus [bindId, Status.finished.toU8]).map fun finished =>
      srv.notifyGame clientId finished
  else some []

/-- `close_socket` after the world was left. -/
def closeLeft (srv : Server) (clientId : ClientID) : Option Reply :=
  match srv.getGameByClientid clientId with
  | none => srv.fail (.closeSocket (.playerNotFound clientId))
  | some (key, game) => do
    let player ← game.getPlayer clientId
    match player.bindId with
    | none => srv.fail (.closeSocket (.playerNotBind clientId))
    | some playerBindId => do
      let srv' := srv.setGame key (game.finish clientId (finishPlayer player))
      let sent ← srv'.announceFinished clientId player playerBindId
      (← srv'.removePlayer clientId).complete sent

def closeSocket (env : Env) (srv : Server) (clientId : ClientID) : Option Reply := do
  let left ← srv.leaveWorld env clientId
  match left.result with
  | .ok _ | .error (.leaveWorld (.worldEmpty _)) => do
    let closed ← left.srv.closeLeft clientId
    some { closed with sent := left.sent ++ closed.sent }
  | .error err => some { left with result := .error err }

end Server

/-! ### set_world -/

def worldSnapshotOrder (v : Vanject) : UInt8 :=
  if v.getType = NID.vanger then 0
  else if v.getType = NID.slot then 1
  else if v.getType = NID.device then 2
  else if v.getType = NID.shell then 3
  else if v.getType = NID.stuff then 4
  else 255

def shouldIncludeInWorldSnapshot (v : Vanject) (worldId joiningPlayerBindId : UInt8) : Bool :=
  if v.getWorld ≠ asI32 worldId then false
  else if v.getType = NID.stuff then true
  else if v.getType = NID.vanger ∨ v.getType = NID.slot ∨ v.getType = NID.device
      ∨ v.getType = NID.shell then
    v.playerBindId ≠ joiningPlayerBindId
  else false

/-- `sort_by_key(|v| (world_snapshot_order(v), v.id))`: ids compare as signed integers. -/
def snapshotLe (v w : Vanject) : Bool :=
  worldSnapshotOrder v < worldSnapshotOrder w
    || (worldSnapshotOrder v = worldSnapshotOrder w && v.id.sle w.id)

/-- The objects a player that joins a world is told about, in the order they are sent. -/
def worldSnapshot (vanjects : Vanjects) (worldId playerBindId : UInt8) : List Vanject :=
  (vanjects.values.filter fun v =>
    shouldIncludeInWorldSnapshot v worldId playerBindId).insertionSort fun v w => snapshotLe v w

/-- The world a player asks for, made when the game does not have it yet. -/
def findOrCreateWorld (game : Game) (worldId : UInt8) (ySize : I16) :
    Except SetWorldError (Game × World × UInt8) :=
  match game.worlds.find? fun w => w.id = worldId with
  | some world =>
    if world.ySize ≠ ySize then .error (.invalidWorldSize world.ySize ySize)
    else .ok (game, world, 0)
  | none =>
    let world := { id := worldId, ySize }
    .ok ({ game with worlds := game.worlds ++ [world] }, world, 1)

namespace Server

/-- `set_world` from the point where the old world, if any, was left. -/
def enterWorld (srv : Server) (packet : Packet) (clientId : ClientID) (worldId : UInt8)
    (ySize : I16) : Option Reply :=
  match srv.getGameByClientid clientId with
  | none => srv.fail (.setWorld (.playerNotFound clientId))
  | some (key, game) =>
    match findOrCreateWorld game worldId ySize with
    | .error err => srv.fail (.setWorld err)
    | .ok (game', world, worldStatus) => do
      let player ← game'.getPlayer clientId
      match player.bindId with
      -- a world made above stays
      | none => (srv.setGame key game').fail (.setWorld (.playerNotBind clientId))
      | some playerBindId => do
        let snapshot ← (worldSnapshot game'.vanjects worldId playerBindId).mapM statePacket
        let (game'', changed) ← game'.placePlayer clientId world
        let status ← Packet.new .playersStatus [playerBindId, Status.gaming.toU8]
        let playersWorld ← Packet.new .playersWorld [playerBindId, worldId]
        let response ← packet.createAnswer [worldId, worldStatus]
        let snapshotBegin ← Packet.new .worldSnapshotBegin [worldId]
        let playersSnapshot ← totalPlayersDataPacket game''
        let snapshotEnd ← Packet.new .worldSnapshotEnd [worldId]
        let srv' := srv.setGame key game''
        srv'.complete
          ((if changed then srv'.notifyAll clientId status else [])
            ++ srv'.notifyGame clientId playersWorld
            ++ ([response, snapshotBegin, playersSnapshot] ++ snapshot ++ [snapshotEnd]).flatMap
                (srv'.notifyPlayer clientId))

/-- Whether the player stands in another world than the one it asks for. -/
def needsLeaveWorld (srv : Server) (clientId : ClientID) (worldId : UInt8) : Bool :=
  match ((srv.getGameByClientid clientId).bind fun e => e.2.getPlayer clientId).bind
      Player.worldId with
  | some world => world ≠ worldId
  | none => false

def setWorld (env : Env) (srv : Server) (packet : Packet) (clientId : ClientID) :
    Option Reply := do
  let worldId ← packet.data[0]?
  let ySize ← sliceLeToI16 (← slice packet.data 1 3)
  if srv.needsLeaveWorld clientId worldId then do
    let left ← srv.leaveWorld env clientId
    match left.result with
    | .error err => some { left with result := .error err }
    | .ok _ => do
      let entered ← left.srv.enterWorld packet clientId worldId ySize
      some { entered with sent := left.sent ++ entered.sent }
  else srv.enterWorld packet clientId worldId ySize

end Server

end VangersSrv
