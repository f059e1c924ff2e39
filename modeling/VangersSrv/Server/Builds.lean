/-
The packets the handlers build.

The size field of a packet is an `i16`, and `Packet::new` and `as_bytes` panic on data that
it cannot count.  `builds` follows each handler from the top and lists the data it gives to
them.
-/
import VangersSrv.Server.Replies
import VangersSrv.Server.Slices

namespace VangersSrv

/-- What `state` packets carry: an item's has a header of its own. -/
def stateData (v : Vanject) : Bytes :=
  if isItemVanject v then [itemStateForVanject v] ++ toLeBytes32 0 ++ v.toVangersByte
  else v.toVangersByte

def replayData (existing : Vanject) : List Bytes :=
  stateData existing ::
    if existing.getType = NID.vanger then [[existing.playerBindId] ++ existing.pos.toVangersByte]
    else []

/-- What the players list carries. -/
def playersList (game : Game) : Bytes :=
  let entries := game.players.filterMap playerEntry ++ game.removedPlayers.map removedPlayerEntry
  [UInt8.ofNat entries.length] ++ entries.flatten

theorem totalPlayersDataPacket_eq (game : Game) :
    totalPlayersDataPacket game = Packet.new .totalListOfPlayersData (playersList game) := rfl

theorem statePacket_eq (v : Vanject) :
    statePacket v
      = Packet.new (if isItemVanject v then .itemState else .updateObject) (stateData v) := by
  unfold statePacket stateData itemStatePacket
  split <;> rfl

namespace Server

/-- The game that an attach request joins, with the new player in it, and that player's
number. -/
def joins (env : Env) (srv : Server) (packet : Packet) (clientId : ClientID) :
    Option (Game × UInt8) :=
  if packet.data.length ≠ 4 then none
  else do
    let requested ← sliceLeToI32 packet.data
    let found ← (srv.requestedGame env requested).1.games.lookup
      (srv.requestedGame env requested).2
    (found.attachPlayer (Player.new clientId)).join

/-- Every object of the new player's station has a place in the table of id offsets. -/
def OffsetsInTable (env : Env) (srv : Server) (packet : Packet) (clientId : ClientID) : Prop :=
  packet.action = .attachToGame → ∀ game playerId,
    srv.joins env packet clientId = some (game, playerId) →
      (idOffsets playerId game.vanjects).isSome

/-- The sort of the top list does not panic. -/
def Sorts (env : Env) (srv : Server) (packet : Packet) : Prop :=
  packet.action = .topListQuery → ∀ mode, packet.data.head? = some mode →
    ∀ entries, srv.topListEntries mode = some entries → (env.sortBy entries).isSome

def attachToGameBuilds (env : Env) (srv : Server) (packet : Packet) (clientId : ClientID) :
    List Bytes :=
  match srv.joins env packet clientId with
  | none => []
  | some (game, playerId) =>
    match idOffsets playerId game.vanjects with
    | none => []
    | some _ =>
      (game.vanjects.values.filter fun v => !v.isNonGlobal).map Vanject.toVangersByte
        ++ [toLeBytes32 env.unix]

def restoreConnectionBuilds (srv : Server) (packet : Packet) : List Bytes :=
  match sliceLeToI32 (packet.data.take 4), packet.data[4]? with
  | some gameId, some playerId =>
    if packet.data.length ≠ 5 then []
    else
      match (srv.games.lookup gameId).bind fun game =>
          game.players.find? fun p => p.bindId = some playerId with
      | none => [[0]]
      | some _ => [[1]]
  | _, _ => []

def totalPlayersDataQueryBuilds (srv : Server) (clientId : ClientID) : List Bytes :=
  match srv.getGameByClientid clientId with
  | none => []
  | some (_, game) => [playersList game]

def createAcceptedBuilds (v : Vanject) : List Bytes :=
  if v.getType = NID.vanger then
    match Body.fromSlice v.body with
    | some (some _) => [v.toVangersByte]
    | _ => []
  else [stateData v]

def createObjectBuilds (srv : Server) (packet : Packet) (clientId : ClientID) : List Bytes :=
  match Vanject.createFromSlice packet.data, srv.getGameByClientid clientId with
  | some (.ok vanject), some (_, game) =>
    match game.vanjects.lookup vanject.id with
    | some existing => replayData existing
    | none =>
      match if isItemVanject vanject then itemHasPairedVanject vanject game.vanjects else none with
      | some _ => []
      | none =>
        match (game.getPlayer clientId).bind fun player => player.bindVanject vanject with
        | none => []
        | some v => createAcceptedBuilds v
  | _, _ => []

def updateObjectBuilds (srv : Server) (packet : Packet) (clientId : ClientID) : List Bytes :=
  match sliceLeToI32 (packet.data.take 4), srv.getGameByClientid clientId with
  | some vanjectId, some (_, game) =>
    match game.getPlayer clientId with
    | none => []
    | some player =>
      match player.bindId with
      | none => []
      | some playerBindId =>
        match game.vanjects.lookup vanjectId with
        | none => []
        | some vanject =>
          match updateRejection vanject vanjectId clientId playerBindId player.worldId with
          | some _ => []
          | none =>
            match vanject.updateFromSlice packet.data with
            | some (.ok updated) => [stateData { updated with playerBindId }]
            | _ => []
  | _, _ => []

/-- What a relayed delete request carries. -/
def deleteData (packet : Packet) (id : I32) (playerBindId : UInt8) : Bytes :=
  toLeBytes32 id ++ [playerBindId] ++ (packet.data.drop 4).take 4 ++ packet.data.drop 8

def itemRemovedData (v : Vanject) (reason : UInt8) : Bytes :=
  toLeBytes32 v.id ++ toLeBytes32 ((itemLinkedId v).getD 0) ++ [reason]

def deleteObjectBuilds (srv : Server) (packet : Packet) (clientId : ClientID) : List Bytes :=
  match sliceLeToI32 (packet.data.take 4), srv.getGameByClientid clientId with
  | some vanjectId, some (_, game) =>
    match (game.getPlayer clientId).bind Player.bindId with
    | none => []
    | some playerAuthId =>
      match game.vanjects.lookup vanjectId with
      | none => [deleteData packet vanjectId playerAuthId]
      | some vanject =>
        if vanject.playerBindId ≠ playerAuthId then []
        else if isItemVanject vanject ∧ packet.data[8]? = some 1 then []
        else if isItemVanject vanject then [itemRemovedData vanject itemRemovedReasonDelete]
        else [deleteData packet vanjectId playerAuthId]
  | _, _ => []

def itemTransferBuilds (srv : Server) (packet : Packet) (clientId : ClientID) : List Bytes :=
  match ItemTransfer.parse packet, srv.getGameByClientid clientId with
  | some (.ok transfer), some (_, game) =>
    match transfer.validate, game.getPlayer clientId with
    | .ok (), some player =>
      match player.bindId, player.worldId with
      | some playerBindId, some playerWorldId =>
        match transfer.check game.vanjects playerBindId playerWorldId with
        | .error _ => []
        | .ok _ =>
          let v := { transfer.newVanject with playerBindId }
          [[itemStateForVanject v] ++ toLeBytes32 transfer.oldId ++ v.toVangersByte]
      | _, _ => []
    | _, _ => []
  | _, _ => []

def leaveWorldBuilds (srv : Server) (clientId : ClientID) : List Bytes :=
  match srv.getGameByClientid clientId with
  | none => []
  | some (_, game) =>
    match game.getPlayer clientId with
    | none => []
    | some player =>
      match player.bindId, player.world with
      | some playerBindId, some _ =>
        ((game.vanjects.entries.filter fun e => shouldDeleteOnLeaveWorld e.2 playerBindId).map
            fun e => toLeBytes32 e.1 ++ [playerBindId] ++ toLeBytes32 e.2.time)
          ++ [[playerBindId, 0]]
      | _, _ => []

/-- What `close_socket` builds after the world was left. -/
def closeLeftBuilds (srv : Server) (clientId : ClientID) : List Bytes :=
  match srv.getGameByClientid clientId with
  | none => []
  | some (_, game) =>
    match game.getPlayer clientId with
    | none => []
    | some player =>
      match player.bindId with
      | none => []
      | some playerBindId =>
        if player.status = .gaming then [[playerBindId, Status.finished.toU8]] else []

def closeSocketBuilds (env : Env) (srv : Server) (clientId : ClientID) : List Bytes :=
  srv.leaveWorldBuilds clientId ++
    match srv.leaveWorld env clientId with
    | none => []
    | some left =>
      match left.result with
      | .ok _ | .error (.leaveWorld (.worldEmpty _)) => left.srv.closeLeftBuilds clientId
      | .error _ => []

/-- What `set_world` builds after the old world, if any, was left. -/
def enterWorldBuilds (srv : Server) (clientId : ClientID) (worldId : UInt8) (ySize : I16) :
    List Bytes :=
  match srv.getGameByClientid clientId with
  | none => []
  | some (_, game) =>
    match findOrCreateWorld game worldId ySize with
    | .error _ => []
    | .ok (game', world, _) =>
      match (game'.getPlayer clientId).bind Player.bindId with
      | none => []
      | some playerBindId =>
        (worldSnapshot game'.vanjects worldId playerBindId).map stateData ++
          match game'.placePlayer clientId world with
          | none => []
          | some (game'', changed) =>
            (if changed then [[playerBindId, Status.gaming.toU8]] else [])
              ++ [[playerBindId, worldId], [worldId], playersList game'', [worldId]]

def setWorldBuilds (env : Env) (srv : Server) (packet : Packet) (clientId : ClientID) :
    List Bytes :=
  match packet.data[0]?, (slice packet.data 1 3).bind sliceLeToI16 with
  | some worldId, some ySize =>
    if srv.needsLeaveWorld clientId worldId then
      -- a request to leave the world is made up first
      [] :: srv.leaveWorldBuilds clientId ++
        match srv.leaveWorld env clientId with
        | none => []
        | some left =>
          match left.result with
          | .error _ => []
          | .ok _ => left.srv.enterWorldBuilds clientId worldId ySize
    else srv.enterWorldBuilds clientId worldId ySize
  | _, _ => []

/-- The data that handling a request gives to `Packet::new`, and, when a request without a
handler is logged, to `as_bytes`. -/
def builds (env : Env) (srv : Server) (packet : Packet) (clientId : ClientID) : List Bytes :=
  match packet.action with
  | .attachToGame => srv.attachToGameBuilds env packet clientId
  | .restoreConnection => srv.restoreConnectionBuilds packet
  | .totalPlayersDataQuery => srv.totalPlayersDataQueryBuilds clientId
  | .createObject => srv.createObjectBuilds packet clientId
  | .setWorld => srv.setWorldBuilds env packet clientId
  | .leaveWorld => srv.leaveWorldBuilds clientId
  | .updateObject => srv.updateObjectBuilds packet clientId
  | .deleteObject => srv.deleteObjectBuilds packet clientId
  | .itemTransfer => srv.itemTransferBuilds packet clientId
  | .closeSocket => srv.closeSocketBuilds env clientId
  | .unknown => [packet.data]
  | _ => []

end Server

end VangersSrv
