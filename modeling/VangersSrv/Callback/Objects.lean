/-
Game objects on the server: `create_object.rs`, `update_object.rs`,
`delete_object.rs`, `item_transfer.rs`.

A stored object belongs to the player whose number it carries.  An item lies in the
world as STUFF or in an inventory as DEVICE; the two are one physical item and the
body of each form names the other's id.
-/
import VangersSrv.Server.State

namespace VangersSrv

/-! ### Items: `item_transfer.rs` -/

def itemTransferPickup : UInt8 := 1
def itemTransferDrop : UInt8 := 2
def itemTransferHeaderSize : Nat := 10
def itemStateInInventory : UInt8 := 1
def itemStateInWorld : UInt8 := 2
def itemRemovedReasonDelete : UInt8 := 1

def isItemType (vanjectType : I32) : Bool :=
  vanjectType = NID.stuff || vanjectType = NID.device

def isItemVanject (v : Vanject) : Bool := isItemType v.getType

/-- The id an item's body links to; the slice read is four bytes wide. -/
def itemLinkedId (v : Vanject) : Option I32 :=
  if v.body.length < 5 then none else sliceLeToI32 ((v.body.drop 1).take 4)

/-- The id of a stored item that a new item links to. -/
def itemHasPairedVanject (v : Vanject) (vanjects : Vanjects) : Option I32 :=
  (itemLinkedId v).bind fun linkedId =>
    if isItemType (getVanjectType linkedId) ∧ linkedId ∈ vanjects then some linkedId else none

def itemStateForVanject (v : Vanject) : UInt8 :=
  if v.getType = NID.device then itemStateInInventory
  else if v.getType = NID.stuff then itemStateInWorld
  else 0

def itemStatePacket (previousId : I32) (v : Vanject) : Option Packet :=
  Packet.new .itemState ([itemStateForVanject v] ++ toLeBytes32 previousId ++ v.toVangersByte)

def itemRemovedPacket (v : Vanject) (reason : UInt8) : Option Packet :=
  Packet.new .itemRemoved
    (toLeBytes32 v.id ++ toLeBytes32 ((itemLinkedId v).getD 0) ++ [reason])

/-- The packet that announces the state of an object. -/
def statePacket (v : Vanject) : Option Packet :=
  if isItemVanject v then itemStatePacket 0 v else Packet.new .updateObject v.toVangersByte

/-! ### create_object -/

/-- The answer to a duplicate create: the object as it is stored. -/
def replayPackets (existing : Vanject) : Option (List Packet) := do
  let state ← statePacket existing
  if existing.getType = NID.vanger then
    let position ← Packet.new .playersPosition
      ([existing.playerBindId] ++ existing.pos.toVangersByte)
    some [state, position]
  else some [state]

theorem replayPackets_eq_some {existing : Vanject} {packets : List Packet}
    (h : replayPackets existing = some packets) :
    ∃ state positions, packets = state :: positions ∧ statePacket existing = some state ∧
      ∀ q ∈ positions, Packet.new .playersPosition
        ([existing.playerBindId] ++ existing.pos.toVangersByte) = some q := by
  unfold replayPackets at h
  simp only [Option.bind_eq_bind, Option.bind_eq_some_iff] at h
  obtain ⟨state, hstate, h⟩ := h
  split at h
  · simp only [Option.bind_eq_some_iff, Option.some.injEq] at h
    obtain ⟨position, hposition, rfl⟩ := h
    refine ⟨state, [position], rfl, hstate, fun q hq => ?_⟩
    rw [List.mem_singleton.mp hq]
    exact hposition
  · obtain rfl := Option.some.inj h
    exact ⟨state, [], rfl, hstate, fun q hq => absurd hq List.not_mem_nil⟩

namespace Server

/-- Announces an object to its world, or to the game when the object is global. -/
def notifyObject (srv : Server) (clientId : ClientID) (id : I32) (packet : Packet)
    (realtime : Bool := false) : List Sent :=
  if realtime then
    if isNonGlobalVanject id then srv.notifyWorldRealtimeUpdate clientId (worldOf id) packet false
    else srv.notifyGameRealtimeUpdate clientId packet
  else if isNonGlobalVanject id then srv.notifyWorld clientId (worldOf id) packet false
  else srv.notifyGame clientId packet

/-- The way a packet goes is the only difference that `realtime` makes. -/
theorem notifyObject_eq (srv : Server) (clientId : ClientID) (id : I32) (packet : Packet)
    (realtime : Bool) : srv.notifyObject clientId id packet realtime =
      if isNonGlobalVanject id then srv.notifyWorld clientId (worldOf id) packet false realtime
      else srv.notify clientId packet (fun c => c ≠ clientId) realtime := by
  cases realtime <;> rfl

theorem notifyObject_local {srv : Server} {clientId : ClientID} {id : I32} {packet : Packet}
    {realtime : Bool} (h : isNonGlobalVanject id = true) :
    srv.notifyObject clientId id packet realtime
      = srv.notifyWorld clientId (worldOf id) packet false realtime := by
  rw [notifyObject_eq, if_pos h]

/-- Stores an object that was just announced: the game is looked up once more. -/
def storeVanject (srv : Server) (clientId : ClientID) (v : Vanject) : Option Server := do
  let (key, game) ← srv.getGameByClientid clientId
  some (srv.setGame key { game with vanjects := game.vanjects.insert v.id v })

/-- A VANGER is announced to its world when its body parsed. -/
def announceVanger (srv : Server) (clientId : ClientID) (v : Vanject) (parsed : Bool) :
    Option (List Sent) :=
  if parsed then
    (Packet.new .updateObject v.toVangersByte).map fun answer =>
      srv.notifyWorld clientId (worldOf v.id) answer false
  else some []

/-- The accepting half of `create_object`.  A VANGER moves its player and replaces the
player's body; when that body does not parse the object is stored unannounced. -/
def createAccepted (srv : Server) (clientId : ClientID) (key : GameID) (game : Game)
    (player : Player) (v : Vanject) : Option Reply :=
  if v.getType = NID.vanger then do
    let (player', parsed) ← { player with pos := v.pos : Player }.setBody v.body
    let srv' := srv.setGame key (game.modifyPlayer clientId fun _ => player')
    let sent ← srv'.announceVanger clientId v parsed
    (← srv'.storeVanject clientId v).complete sent
  else do
    let answer ← statePacket v
    (← srv.storeVanject clientId v).complete (srv.notifyObject clientId v.id answer)

def createObject (srv : Server) (packet : Packet) (clientId : ClientID) : Option Reply := do
  match ← Vanject.createFromSlice packet.data with
  | .error err => srv.fail (.createObject (.sliceToVanjectParse err))
  | .ok vanject =>
    match srv.getGameByClientid clientId with
    | none => srv.fail (.createObject (.playerNotFound clientId))
    | some (key, game) =>
      match game.vanjects.lookup vanject.id with
      | some existing => do
        let packets ← replayPackets existing
        srv.complete (packets.flatMap (srv.notifyPlayer clientId))
      | none =>
        match if isItemVanject vanject then itemHasPairedVanject vanject game.vanjects else none with
        | some pairedId => srv.fail (.createObject (.pairedItemAlreadyExists vanject.id pairedId))
        | none => do
          let player ← game.getPlayer clientId
          match player.bindVanject vanject with
          | none => srv.fail (.createObject (.playerNotBind clientId))
          | some v => srv.createAccepted clientId key game player v

end Server

/-! ### update_object -/

def isRealtimeCoalescedUpdate (id : I32) : Bool := getVanjectType id = NID.vanger

/-- Why an update of a stored object is turned down, if it is. -/
def updateRejection (v : Vanject) (id : I32) (clientId : ClientID) (playerBindId : UInt8)
    (playerWorldId : Option UInt8) : Option UpdateObjectError :=
  if v.isNonGlobal then
    match playerWorldId with
    | none => some (.playerWorldEmpty clientId)
    | some playerWorldId =>
      if playerWorldId ≠ worldOf v.id then some (.wrongWorld id (worldOf v.id) playerWorldId)
      else if v.isNonStatic ∧ v.playerBindId ≠ playerBindId then some (.notOwner id playerBindId)
      else none
  else none

/-- An update of a local object without the static bit is turned down unless it is the owner's. -/
theorem updateRejection_owner {v : Vanject} {id : I32} {c : ClientID} {b : UInt8} {w : Option UInt8}
    (hlocal : v.isNonGlobal = true) (hdynamic : v.isNonStatic = true)
    (h : updateRejection v id c b w = none) : v.playerBindId = b := by
  by_contra hne
  unfold updateRejection at h
  rw [if_pos hlocal] at h
  split at h
  · cases h
  · split at h
    · cases h
    · rw [if_pos ⟨hdynamic, hne⟩] at h
      cases h

namespace Server

/-- An accepted update makes its sender the owner. -/
def updateObject (srv : Server) (packet : Packet) (clientId : ClientID) : Option Reply :=
  if packet.data.length < 4 then srv.fail (.updateObject .sliceTooSmall)
  else do
    let vanjectId ← sliceLeToI32 (← slice packet.data 0 4)
    match srv.getGameByClientid clientId with
    | none => srv.fail (.updateObject (.playerNotFound clientId))
    | some (key, game) => do
      let player ← game.getPlayer clientId
      match player.bindId with
      | none => srv.fail (.updateObject (.playerNotBind clientId))
      | some playerBindId =>
        match game.vanjects.lookup vanjectId with
        | none => srv.fail (.updateObject (.vanjectNotFound vanjectId))
        | some vanject =>
          match updateRejection vanject vanjectId clientId playerBindId player.worldId with
          | some err => srv.fail (.updateObject err)
          | none =>
            match ← vanject.updateFromSlice packet.data with
            | .error err => srv.fail (.updateObject (.sliceToVanjectParse err))
            | .ok updated => do
              let v := { updated with playerBindId }
              let answer ← statePacket v
              let srv' := srv.setGame key
                { game with vanjects := game.vanjects.replace vanjectId v }
              srv'.complete
                (srv'.notifyObject clientId v.id answer (isRealtimeCoalescedUpdate vanjectId))

end Server

/-! ### delete_object -/

/-- The answer that relays a delete request under the sender's number. -/
def deletePacket (packet : Packet) (id : I32) (playerBindId : UInt8) : Option Packet := do
  let time ← slice packet.data 4 8
  let rest ← sliceFrom packet.data 8
  Packet.new .deleteObject (toLeBytes32 id ++ [playerBindId] ++ time ++ rest)

namespace Server

/-- The end of `delete_object`: the entry goes, if there is one, and the answer out. -/
def deleteAccepted (srv : Server) (clientId : ClientID) (key : GameID) (game : Game) (id : I32)
    (answer : Packet) : Option Reply :=
  let srv' := srv.setGame key { game with vanjects := game.vanjects.erase id }
  srv'.complete (srv'.notifyObject clientId id answer)

def deleteObject (srv : Server) (packet : Packet) (clientId : ClientID) : Option Reply := do
  let vanjectId ← sliceLeToI32 (← slice packet.data 0 4)
  match srv.getGameByClientid clientId with
  | none => srv.fail (.deleteObject (.playerNotFound clientId))
  | some (key, game) => do
    let player ← game.getPlayer clientId
    match player.bindId with
    | none => srv.fail (.deleteObject (.playerNotBind clientId))
    | some playerAuthId =>
      match game.vanjects.lookup vanjectId with
      | none => do
        let answer ← deletePacket packet vanjectId playerAuthId
        srv.deleteAccepted clientId key game vanjectId answer
      | some vanject =>
        if vanject.playerBindId ≠ playerAuthId then
          srv.fail (.deleteObject (.notOwner vanjectId playerAuthId))
        else if isItemVanject vanject ∧ packet.data[8]? = some 1 then
          srv.fail (.deleteObject (.legacyItemTransferDelete vanjectId))
        else if isItemVanject vanject then do
          let answer ← itemRemovedPacket vanject itemRemovedReasonDelete
          srv.deleteAccepted clientId key game vanjectId answer
        else do
          let answer ← deletePacket packet vanjectId playerAuthId
          srv.deleteAccepted clientId key game vanjectId answer

end Server

/-! ### item_transfer -/

structure ItemTransfer where
  kind : UInt8
  oldId : I32
  deleteBody : UInt8
  newVanject : Vanject
  deriving DecidableEq, Repr

namespace ItemTransfer

/-- `parse_item_transfer` -/
def parse (packet : Packet) : Option (Except ItemTransferError ItemTransfer) :=
  if packet.data.length < itemTransferHeaderSize + 14 then
    some (.error (.packetTooSmall packet.data.length))
  else do
    let kind ← packet.data[0]?
    if kind ≠ itemTransferPickup ∧ kind ≠ itemTransferDrop then some (.error (.invalidKind kind))
    else do
      let oldId ← sliceLeToI32 (← slice packet.data 1 5)
      let deleteBody ← packet.data[9]?
      match ← Vanject.createFromSlice (← sliceFrom packet.data itemTransferHeaderSize) with
      | .error err => some (.error (.sliceToVanjectParse err))
      | .ok newVanject => some (.ok { kind, oldId, deleteBody, newVanject })

/-- `validate_transfer_types` -/
def validateTypes (t : ItemTransfer) : Except ItemTransferError Unit :=
  let oldType := getVanjectType t.oldId
  let newType := t.newVanject.getType
  if t.kind = itemTransferPickup ∧ oldType = NID.stuff ∧ newType = NID.device then .ok ()
  else if t.kind = itemTransferDrop ∧ oldType = NID.device ∧ newType = NID.stuff then .ok ()
  else .error (.typeMismatch t.kind oldType newType)

/-- `validate_transfer_id_pair` -/
def validateIdPair (t : ItemTransfer) : Except ItemTransferError Unit :=
  let oldDecoded := DecodedVanjectId.new t.oldId
  let newDecoded := DecodedVanjectId.new t.newVanject.id
  if oldDecoded.station ≠ newDecoded.station ∨ oldDecoded.world ≠ newDecoded.world
      ∨ oldDecoded.counter ≠ newDecoded.counter then
    .error (.itemIdPairMismatch t.oldId t.newVanject.id)
  else .ok ()

/-- `validate_linked_item_id` -/
def validateLinkedItemId (t : ItemTransfer) : Except ItemTransferError Unit :=
  match itemLinkedId t.newVanject with
  | none => .error .newItemBodyTooSmall
  | some linkedId =>
    if linkedId ≠ t.oldId then .error (.linkedIdMismatch t.oldId linkedId) else .ok ()

/-- `validate_delete_marker` -/
def validateDeleteMarker (t : ItemTransfer) : Except ItemTransferError Unit :=
  if t.deleteBody ≠ 1 then .error (.invalidDeleteMarker t.deleteBody) else .ok ()

/-- The four checks, in their order. -/
def validate (t : ItemTransfer) : Except ItemTransferError Unit := do
  t.validateTypes
  t.validateIdPair
  t.validateLinkedItemId
  t.validateDeleteMarker

/-- The checks against the store, in their order; the old object is what they find. -/
def check (t : ItemTransfer) (vanjects : Vanjects) (playerBindId playerWorldId : UInt8) :
    Except ItemTransferError Vanject :=
  if t.newVanject.id ∈ vanjects then .error (.newItemAlreadyExists t.newVanject.id)
  else
    match vanjects.lookup t.oldId with
    | none => .error (.oldItemNotFound t.oldId)
    | some oldVanject =>
      if worldOf oldVanject.id ≠ playerWorldId then
        .error (.wrongWorld t.oldId (worldOf oldVanject.id) playerWorldId)
      else if worldOf t.newVanject.id ≠ playerWorldId then
        .error (.wrongWorld t.newVanject.id (worldOf t.newVanject.id) playerWorldId)
      else if t.kind = itemTransferDrop ∧ oldVanject.playerBindId ≠ playerBindId then
        .error (.notOwner t.oldId playerBindId)
      else .ok oldVanject

/-! ### What an accepted transfer passed -/

/-- The parts of an id that a transfer keeps. -/
def SamePlace (a b : I32) : Prop :=
  VangersSrv.getStation a = VangersSrv.getStation b ∧
    VangersSrv.getWorld a = VangersSrv.getWorld b ∧ a &&& 0xffff#32 = b &&& 0xffff#32

/-- A transfer that passes the checks turns STUFF into DEVICE or back, keeps the rest of
the id, and its new object links to the old one. -/
theorem validate_ok {t : ItemTransfer} (h : t.validate = .ok ()) :
    ((t.kind = itemTransferPickup ∧ getVanjectType t.oldId = NID.stuff ∧
        getVanjectType t.newVanject.id = NID.device) ∨
      (t.kind = itemTransferDrop ∧ getVanjectType t.oldId = NID.device ∧
        getVanjectType t.newVanject.id = NID.stuff)) ∧
      SamePlace t.oldId t.newVanject.id ∧ itemLinkedId t.newVanject = some t.oldId ∧
      t.deleteBody = 1 := by
  have hbind : ∀ {α β : Type} {x : Except ItemTransferError α} {f : α → Except ItemTransferError β}
      {b : β}, x >>= f = .ok b → ∃ a, x = .ok a ∧ f a = .ok b := by
    intro α β x f b hx
    cases x with
    | error e => cases hx
    | ok a => exact ⟨a, rfl, hx⟩
  unfold validate at h
  obtain ⟨_, htypes, h⟩ := hbind h
  obtain ⟨_, hpair, h⟩ := hbind h
  obtain ⟨_, hlinked, hmarker⟩ := hbind h
  refine ⟨?_, ?_, ?_, ?_⟩
  · simp only [validateTypes] at htypes
    split at htypes
    · rename_i hkind
      exact Or.inl hkind
    · split at htypes
      · rename_i hkind
        exact Or.inr hkind
      · cases htypes
  · simp only [validateIdPair] at hpair
    split at hpair
    · cases hpair
    · rename_i hsame
      simp only [DecodedVanjectId.new, not_or, not_not] at hsame
      exact hsame
  · unfold validateLinkedItemId at hlinked
    split at hlinked
    · cases hlinked
    · rename_i linkedId heq
      split at hlinked
      · cases hlinked
      · rename_i hid
        rw [heq, not_not.mp hid]
  · unfold validateDeleteMarker at hmarker
    split at hmarker
    · cases hmarker
    · rename_i hone
      exact not_not.mp hone

/-- A transfer admitted to the store finds the old object, not the new one, both in the
player's world, and a drop is its owner's. -/
theorem check_ok {t : ItemTransfer} {vanjects : Vanjects} {b w : UInt8} {old : Vanject}
    (h : t.check vanjects b w = .ok old) :
    vanjects.lookup t.newVanject.id = none ∧ vanjects.lookup t.oldId = some old ∧
      worldOf old.id = w ∧ worldOf t.newVanject.id = w ∧
      (t.kind = itemTransferDrop → old.playerBindId = b) := by
  unfold check at h
  split at h
  · cases h
  rename_i hnew
  split at h
  · cases h
  rename_i found hold
  split at h
  · cases h
  rename_i hworld
  split at h
  · cases h
  rename_i hworld'
  split at h
  · cases h
  rename_i howner
  cases h
  refine ⟨AList.lookup_eq_none.mpr hnew, hold, not_not.mp hworld, not_not.mp hworld', ?_⟩
  intro hdrop
  by_contra hne
  exact howner ⟨hdrop, hne⟩

end ItemTransfer

namespace Server

def itemTransfer (srv : Server) (packet : Packet) (clientId : ClientID) : Option Reply := do
  match ← ItemTransfer.parse packet with
  | .error err => srv.fail (.itemTransfer err)
  | .ok transfer =>
    match transfer.validate with
    | .error err => srv.fail (.itemTransfer err)
    | .ok () =>
      match srv.getGameByClientid clientId with
      | none => srv.fail (.itemTransfer (.playerNotFound clientId))
      | some (key, game) =>
        match game.getPlayer clientId with
        | none => srv.fail (.itemTransfer (.playerNotFound clientId))
        | some player =>
          match player.bindId with
          | none => srv.fail (.itemTransfer (.playerNotBind clientId))
          | some playerBindId =>
            match player.worldId with
            | none => srv.fail (.itemTransfer (.playerWorldEmpty clientId))
            | some playerWorldId =>
              match transfer.check game.vanjects playerBindId playerWorldId with
              | .error err => srv.fail (.itemTransfer err)
              | .ok _ => do
                let v := { transfer.newVanject with playerBindId }
                let answer ← itemStatePacket transfer.oldId v
                let srv' := srv.setGame key
                  { game with vanjects := (game.vanjects.erase transfer.oldId).insert v.id v }
                srv'.complete (srv'.notifyWorld clientId (worldOf v.id) answer false)

end Server

end VangersSrv
