/-
The wire protocol: `protocol.rs`.

A packet travels as a 16-bit length, an action byte and data; the length counts
the action byte and the data.  `real_action` keeps the action byte of a packet whose
byte names no known action.
-/
import VangersSrv.Utils

namespace VangersSrv

/-- The type of a packet. -/
inductive Action
  | unknown
  | createObject | deleteObject | updateObject | hideObject
  -- requests to the server
  | gamesListQuery | topListQuery | attachToGame | restoreConnection | closeSocket
  | registerName | serverTimeQuery | setWorld | leaveWorld | setPosition
  | totalPlayersDataQuery | setGameData | getGameData | setPlayerData | directSending
  | itemTransfer
  -- responses to the client
  | gamesListResponse | topListResponse | totalListOfPlayersData | attachToGameResponse
  | restoreConnectionResponse | serverTime | serverTimeResponse | setWorldResponse
  | gameDataResponse | directReceiving | playersName | playersPosition | playersWorld
  | playersStatus | playersData | playersRating | worldSnapshotBegin | worldSnapshotEnd
  | itemState | itemRemoved | zTimeResponse
  deriving DecidableEq, Repr

namespace Action

/-- `action as u8` -/
def toU8 : Action → UInt8
  | unknown => 0x00
  | createObject => 0x02
  | deleteObject => 0x04
  | updateObject => 0x08
  | hideObject => 0x0C
  | gamesListQuery => 0x81
  | topListQuery => 0x82
  | attachToGame => 0x83
  | restoreConnection => 0x84
  | closeSocket => 0x86
  | registerName => 0x88
  | serverTimeQuery => 0x89
  | setWorld => 0x8B
  | leaveWorld => 0x8C
  | setPosition => 0x8D
  | totalPlayersDataQuery => 0x91
  | setGameData => 0x92
  | getGameData => 0x93
  | setPlayerData => 0x94
  | directSending => 0x95
  | itemTransfer => 0x96
  | gamesListResponse => 0xC1
  | topListResponse => 0xC2
  | totalListOfPlayersData => 0xCC
  | attachToGameResponse => 0xC3
  | restoreConnectionResponse => 0xC4
  | serverTime => 0xC6
  | serverTimeResponse => 0xC7
  | setWorldResponse => 0xC8
  | gameDataResponse => 0xCD
  | directReceiving => 0xCE
  | playersName => 0xD5
  | playersPosition => 0xCF
  | playersWorld => 0xD1
  | playersStatus => 0xD2
  | playersData => 0xD3
  | playersRating => 0xD4
  | worldSnapshotBegin => 0xD6
  | worldSnapshotEnd => 0xD7
  | itemState => 0xD8
  | itemRemoved => 0xD9
  | zTimeResponse => 0xE3

/-- Every action, in the order of the enumeration. -/
def all : List Action :=
  [unknown, createObject, deleteObject, updateObject, hideObject, gamesListQuery, topListQuery,
    attachToGame, restoreConnection, closeSocket, registerName, serverTimeQuery, setWorld,
    leaveWorld, setPosition, totalPlayersDataQuery, setGameData, getGameData, setPlayerData,
    directSending, itemTransfer, gamesListResponse, topListResponse, totalListOfPlayersData,
    attachToGameResponse, restoreConnectionResponse, serverTime, serverTimeResponse,
    setWorldResponse, gameDataResponse, directReceiving, playersName, playersPosition,
    playersWorld, playersStatus, playersData, playersRating, worldSnapshotBegin,
    worldSnapshotEnd, itemState, itemRemoved, zTimeResponse]

/-- `Action::from_u8` -/
def fromU8 (byte : UInt8) : Option Action := all.find? fun action => action.toU8 = byte

theorem toU8_of_fromU8 {byte : UInt8} {action : Action} (h : fromU8 byte = some action) :
    action.toU8 = byte := by
  simpa using List.find?_some h

theorem fromU8_toU8 (action : Action) : fromU8 action.toU8 = some action := by
  cases action <;> rfl

/-- Converts a request action to its response action if there is one. -/
def requestToResponse : Action → Option Action
  | gamesListQuery => some gamesListResponse
  | topListQuery => some topListResponse
  | attachToGame => some attachToGameResponse
  | restoreConnection => some restoreConnectionResponse
  | serverTimeQuery => some serverTime
  | totalPlayersDataQuery => some totalListOfPlayersData
  | registerName => some playersName
  | setPlayerData => some playersData
  | setGameData => none
  | getGameData => some gameDataResponse
  | setWorld => some setWorldResponse
  | directSending => some directReceiving
  | _ => none

end Action

/-- A packet between server and client. -/
structure Packet where
  eventSize : I16
  action : Action
  realAction : UInt8
  data : Bytes
  deriving DecidableEq, Repr

namespace Packet

/-- `Packet::default` -/
def default : Packet :=
  { eventSize := 1, action := .unknown, realAction := 0, data := [] }

instance : Inhabited Packet := ⟨default⟩

/-- The byte the action is sent as. -/
def actionByte (p : Packet) : UInt8 :=
  if p.action = .unknown then p.realAction else p.action.toU8

/-- The bytes to send; `i16::try_from` panics when the size does not fit. -/
def asBytes (p : Packet) : Option Bytes :=
  let eventSize := 1 + p.data.length
  if eventSize ≤ i16Max then
    some (LittleEndian.ofNat 2 eventSize ++ [p.actionByte] ++ p.data)
  else none

/-- `Packet::new`, which panics when the size does not fit. -/
def new (action : Action) (data : Bytes) : Option Packet :=
  if data.length + 1 ≤ i16Max then
    some { eventSize := BitVec.ofNat 16 (data.length + 1), action, realAction := action.toU8, data }
  else none

/-- The answer to a request, if its action has one and the size fits. -/
def createAnswer (p : Packet) (data : Bytes) : Option Packet :=
  p.action.requestToResponse.bind fun action =>
    if data.length + 1 ≤ i16Max then
      some { eventSize := BitVec.ofNat 16 (data.length + 1), action, realAction := action.toU8, data }
    else none

/-- Parses a packet; `usize::try_from` panics on a negative size. -/
def fromSlice (buff : Bytes) : Option Packet :=
  if buff.length < 3 then some default
  else do
    let eventSize ← sliceLeToI16 (← slice buff 0 2)
    let realAction ← buff[2]?
    let data ← sliceFrom buff 3
    if eventSize.msb then none
    else
      some {
        eventSize
        action := (Action.fromU8 realAction).getD .unknown
        realAction
        data }

/-- What a packet says: everything but the size field. -/
def content (p : Packet) : Action × UInt8 × Bytes := (p.action, p.realAction, p.data)

/-! ### What a built packet carries -/

theorem new_eq_some {action : Action} {data : Bytes} {p : Packet} (h : new action data = some p) :
    p.action = action ∧ p.data = data ∧ data.length + 1 ≤ i16Max := by
  unfold new at h
  split at h
  · rename_i hlen
    simp only [Option.some.injEq] at h
    subst h
    exact ⟨rfl, rfl, hlen⟩
  · simp at h

theorem new_isSome (action : Action) {data : Bytes} (h : data.length + 1 ≤ i16Max) :
    ∃ p, new action data = some p := by
  simp [new, h]

theorem createAnswer_eq_some {p q : Packet} {data : Bytes} (h : p.createAnswer data = some q) :
    p.action.requestToResponse = some q.action ∧ q.data = data ∧ data.length + 1 ≤ i16Max := by
  unfold createAnswer at h
  simp only [Option.bind_eq_some_iff] at h
  obtain ⟨action, haction, h⟩ := h
  split at h
  · rename_i hlen
    simp only [Option.some.injEq] at h
    subst h
    exact ⟨haction, rfl, hlen⟩
  · simp at h

end Packet

end VangersSrv
