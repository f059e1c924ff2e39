/-
The server's state and how it talks to clients: `server/server.rs`, `server/games.rs`.

A handler reads the state and the request, and answers with the state after it, the
packets it queued and its result (`Reply`).  A handler that panics answers `none`.
Packets are queued client by client in the order of the calls, so the packets one
client gets are the subsequence of `sent` addressed to it.
-/
import VangersSrv.Game
import VangersSrv.Lib.Ranking

namespace VangersSrv

/-! ### Ratings -/

namespace F32

def isNaN (x : BitVec 32) : Bool := 0x7f800000#32 < x &&& 0x7fffffff#32

/-- The value of a float that is not NaN, on a scale that orders floats: the sign
applied to the magnitude bits, so that the two zeros coincide. -/
def key (x : BitVec 32) : Int :=
  if x.msb then -((x &&& 0x7fffffff#32).toNat : Int) else (x &&& 0x7fffffff#32).toNat

/-- `partial_cmp` of the `f32` with these bits. -/
def partialCmp (x y : BitVec 32) : Option Ordering :=
  if isNaN x || isNaN y then none else some (compare (key x) (key y))

end F32

structure TopEntry where
  name : Bytes
  rating : BitVec 32
  deriving DecidableEq, Repr

/-- The comparator given to `sort_by`: greater ratings first. -/
def TopEntry.compare (a b : TopEntry) : Ordering := (F32.partialCmp b.rating a.rating).getD .eq

/-! ### What a step reads -/

/-- What a step reads from outside the server. -/
structure Env where
  now : Instant
  /-- Seconds since the epoch. -/
  unix : U32
  /-- The name made up for a player that registers an empty one. -/
  randomName : Bytes
  /-- The order in which a freshly built hash map is drained. -/
  drain : List (I32 × Packet) → List (I32 × Packet)
  drain_perm : ∀ l, (drain l).Perm l
  /-- What `sort_by` makes of the entries of the top list.  Where the comparator does not order them
  they come out in any order, or the sort panics. -/
  sortBy : List TopEntry → Option (List TopEntry)
  sortBy_ordered : ∀ l, Ranking.TotalPreorderOn TopEntry.compare l →
    sortBy l = some (Ranking.sortBy TopEntry.compare l)
  sortBy_perm : ∀ l, ∀ l' ∈ sortBy l, l'.Perm l

/-! ### State -/

/-- What the main loop knows of the state of a connection. -/
inductive Connection
  | connected
  | authenticated (protocol : UInt8)
  deriving DecidableEq, Repr

structure Client where
  id : ClientID
  connection : Connection
  protocol : UInt8
  deriving DecidableEq, Repr

/-- A connection as `Client::new` hands it to the event channel. -/
def Client.new (id : ClientID) : Client := { id, connection := .connected, protocol := 0 }

/-- The games of the server, in the order an iterator visits them. -/
abbrev Games := AList fun _ : GameID => Game

structure Server where
  games : Games
  /-- Counter for the id of the next new game. -/
  gamesIdUniq : U32
  /-- All connected clients. -/
  clients : List Client
  uptime : Instant

def Server.new (now : Instant) : Server :=
  { games := ∅, gamesIdUniq := 0, clients := [], uptime := now }

namespace Games

/-- The first game that has a player of the connection, with its key. -/
def getGameByClientId (games : Games) (clientId : ClientID) : Option (GameID × Game) :=
  (games.entries.find? fun e => (e.2.getPlayer clientId).isSome).map fun e => (e.1, e.2)

end Games

namespace Server

/-- `get_game_by_clientid`; the key is what a later write through the reference goes to. -/
def getGameByClientid (srv : Server) (clientId : ClientID) : Option (GameID × Game) :=
  srv.games.getGameByClientId clientId

/-- The write through a mutable reference to the game stored under `key`. -/
def setGame (srv : Server) (key : GameID) (game : Game) : Server :=
  { srv with games := srv.games.replace key game }

/-- `get_game_uniq_id`: the counter wraps. -/
def getGameUniqId (srv : Server) : Server × U32 :=
  let id := srv.gamesIdUniq + 1
  ({ srv with gamesIdUniq := id }, id)

/-- `Games::create`; does nothing when the id is taken. -/
def createGame (srv : Server) (now : Instant) (id : GameID) : Server :=
  if id ∈ srv.games then srv
  else { srv with games := srv.games.insert id (Game.new id now) }

end Server

/-! ### Notifications -/

/-- A packet queued to a client; `realtime` tells `send_realtime_update` from `send`. -/
structure Sent where
  client : ClientID
  packet : Packet
  realtime : Bool
  deriving DecidableEq, Repr

/-- The packets a client is sent, in order. -/
def packetsTo (clientId : ClientID) (sent : List Sent) : List Packet :=
  (sent.filter fun s => s.client = clientId).map Sent.packet

namespace Server

/-- Queues a packet to every connected client among `ids`. -/
def sendTo (srv : Server) (ids : List ClientID) (packet : Packet) (realtime : Bool := false) :
    List Sent :=
  (srv.clients.filter fun c => c.id ∈ ids).map fun c => { client := c.id, packet, realtime }

/-- Sends to the players of the sender's game that pass the filter; without a game
nothing is sent. -/
def notify (srv : Server) (clientId : ClientID) (packet : Packet) (filter : ClientID → Bool)
    (realtime : Bool := false) : List Sent :=
  match srv.getGameByClientid clientId with
  | some (_, game) => srv.sendTo ((game.players.map Player.clientId).filter filter) packet realtime
  | none => []

/-- Sends `packet` to the current client only. -/
def notifyPlayer (srv : Server) (clientId : ClientID) (packet : Packet) : List Sent :=
  srv.notify clientId packet fun id => id = clientId

/-- Sends `packet` to all clients in the game except the caller. -/
def notifyGame (srv : Server) (clientId : ClientID) (packet : Packet) : List Sent :=
  srv.notify clientId packet fun id => id ≠ clientId

def notifyGameRealtimeUpdate (srv : Server) (clientId : ClientID) (packet : Packet) : List Sent :=
  srv.notify clientId packet (fun id => id ≠ clientId) true

/-- Sends `packet` to all clients of the game. -/
def notifyAll (srv : Server) (clientId : ClientID) (packet : Packet) : List Sent :=
  srv.notify clientId packet fun _ => true

/-- The clients of the players in a world. -/
def clientIdsInWorld (game : Game) (worldId : UInt8) (senderId : Option ClientID)
    (includeSender : Bool) : List ClientID :=
  ((game.players.filter fun p => p.worldId = some worldId).filter fun p =>
    includeSender || some p.clientId ≠ senderId).map Player.clientId

/-- Sends `packet` to players that are currently attached to the same world. -/
def notifyWorld (srv : Server) (clientId : ClientID) (worldId : UInt8) (packet : Packet)
    (includeSender : Bool) (realtime : Bool := false) : List Sent :=
  match srv.getGameByClientid clientId with
  | some (_, game) =>
    srv.sendTo (clientIdsInWorld game worldId (some clientId) includeSender) packet realtime
  | none => []

def notifyWorldRealtimeUpdate (srv : Server) (clientId : ClientID) (worldId : UInt8)
    (packet : Packet) (includeSender : Bool) : List Sent :=
  srv.notifyWorld clientId worldId packet includeSender true

end Server

/-! ### Results of a handler -/

inductive AttachToGameError
  | notExists (gameId : U32)
  | idEmpty
  | full (gameId : U32)
  deriving DecidableEq, Repr

inductive RestoreConnectionError
  | payloadInvalid
  deriving DecidableEq, Repr

inductive RegisterNameError
  | playerNotFound (clientId : ClientID)
  | nameOrPasswordParse
  | playerNotBind (clientId : ClientID)
  | nameIsNull
  deriving DecidableEq, Repr

inductive SetPlayerDataError
  | playerNotFound (clientId : ClientID)
  | playerNotBind (clientId : ClientID)
  | sliceToBodyParse (gmtype : GameType)
  deriving DecidableEq, Repr

inductive SetPositionError
  | invalidPayloadSize (expected actual : Nat)
  | playerNotFound (clientId : ClientID)
  deriving DecidableEq, Repr

inductive SetGameDataError
  | nameParse
  | nameEmpty
  | sliceToGameConfigParse (text : String)
  | playerNotFound (clientId : ClientID)
  | alreadyConfigured (gameId : U32)
  deriving DecidableEq, Repr

inductive GetGameDataError
  | playerNotFound (clientId : ClientID)
  | notConfigured (gameId : U32)
  deriving DecidableEq, Repr

inductive CreateObjectError
  | sliceToVanjectParse (err : VanjectError)
  | playerNotFound (clientId : ClientID)
  | playerNotBind (clientId : ClientID)
  | pairedItemAlreadyExists (id pairedId : I32)
  deriving DecidableEq, Repr

inductive UpdateObjectError
  | sliceTooSmall
  | sliceToVanjectParse (err : VanjectError)
  | playerNotFound (clientId : ClientID)
  | vanjectNotFound (id : I32)
  | playerNotBind (clientId : ClientID)
  | playerWorldEmpty (clientId : ClientID)
  | wrongWorld (id : I32) (world playerWorld : UInt8)
  | notOwner (id : I32) (bindId : UInt8)
  deriving DecidableEq, Repr

inductive DeleteObjectError
  | playerNotFound (clientId : ClientID)
  | playerNotBind (clientId : ClientID)
  | notOwner (id : I32) (bindId : UInt8)
  | legacyItemTransferDelete (id : I32)
  deriving DecidableEq, Repr

inductive DirectSendingError
  | parse
  | string
  | clientIsOutOfGames (clientId : ClientID)
  | playerNotFound (clientId : ClientID) (gameId : U32)
  | playerNotBind (clientId : ClientID) (gameId : U32)
  deriving DecidableEq, Repr

inductive ItemTransferError
  | packetTooSmall (size : Nat)
  | invalidKind (kind : UInt8)
  | sliceToVanjectParse (err : VanjectError)
  | playerNotFound (clientId : ClientID)
  | playerNotBind (clientId : ClientID)
  | playerWorldEmpty (clientId : ClientID)
  | typeMismatch (kind : UInt8) (oldType newType : I32)
  | linkedIdMismatch (oldId linkedId : I32)
  | newItemBodyTooSmall
  | invalidDeleteMarker (marker : UInt8)
  | itemIdPairMismatch (oldId newId : I32)
  | oldItemNotFound (id : I32)
  | newItemAlreadyExists (id : I32)
  | notOwner (id : I32) (bindId : UInt8)
  | wrongWorld (id : I32) (world playerWorld : UInt8)
  deriving DecidableEq, Repr

inductive TotalPlayersDataQueryError
  | playerNotFound (clientId : ClientID)
  deriving DecidableEq, Repr

inductive SetWorldError
  | playerNotFound (clientId : ClientID)
  | playerNotBind (clientId : ClientID)
  | invalidWorldSize (expected given : I16)
  deriving DecidableEq, Repr

/-- Nothing keeps a world borrowed across a call, so its borrow error cannot occur. -/
inductive LeaveWorldError
  | playerNotFound (clientId : ClientID)
  | playerNotBind (clientId : ClientID)
  | worldEmpty (clientId : ClientID)
  deriving DecidableEq, Repr

inductive CloseSocketError
  | playerNotFound (clientId : ClientID)
  | playerNotBind (clientId : ClientID)
  deriving DecidableEq, Repr

inductive TopListQueryError
  | modeEmpty
  deriving DecidableEq, Repr

inductive OnUpdateError
  | notImplementedAction (packet : Packet)
  | responsePacketTypeNotExist (action : Action)
  | attachToGame (err : AttachToGameError)
  | registerName (err : RegisterNameError)
  | restoreConnection (err : RestoreConnectionError)
  | setPlayerData (err : SetPlayerDataError)
  | setPosition (err : SetPositionError)
  | setGameData (err : SetGameDataError)
  | getGameData (err : GetGameDataError)
  | createObject (err : CreateObjectError)
  | updateObject (err : UpdateObjectError)
  | deleteObject (err : DeleteObjectError)
  | directSending (err : DirectSendingError)
  | itemTransfer (err : ItemTransferError)
  | totalPlayersDataQuery (err : TotalPlayersDataQueryError)
  | setWorld (err : SetWorldError)
  | leaveWorld (err : LeaveWorldError)
  | closeSocket (err : CloseSocketError)
  | topListQuery (err : TopListQueryError)
  deriving DecidableEq, Repr

inductive OnUpdateOk
  | broadcast (packet : Packet)
  | response (packet : Packet)
  | complete
  deriving DecidableEq, Repr

/-- What a handler leaves behind. -/
structure Reply where
  srv : Server
  sent : List Sent
  result : Except OnUpdateError OnUpdateOk

namespace Server

/-- `return Err(err)` of a handler that did nothing yet. -/
def fail (srv : Server) (err : OnUpdateError) : Option Reply :=
  some { srv, sent := [], result := .error err }

/-- `Ok(OnUpdateOk::Complete)` -/
def complete (srv : Server) (sent : List Sent) : Option Reply :=
  some { srv, sent, result := .ok .complete }

/-- `create_answer(data).map(Response).ok_or(ResponsePacketTypeNotExist)` -/
def respond (srv : Server) (packet : Packet) (data : Bytes) : Option Reply :=
  match packet.createAnswer data with
  | some answer => some { srv, sent := [], result := .ok (.response answer) }
  | none => srv.fail (.responsePacketTypeNotExist packet.action)

theorem fail_eq_some {srv : Server} {err : OnUpdateError} {r : Reply} (h : srv.fail err = some r) :
    r = { srv, sent := [], result := .error err } :=
  (Option.some.inj h).symm

/-- A rejected request is not accepted. -/
theorem fail_ne_ok {srv : Server} {err : OnUpdateError} {r : Reply} {ok : OnUpdateOk}
    (h : srv.fail err = some r) : r.result ≠ .ok ok := by
  rw [fail_eq_some h]
  simp

theorem complete_eq_some {srv : Server} {sent : List Sent} {r : Reply}
    (h : srv.complete sent = some r) : r = { srv, sent, result := .ok .complete } :=
  (Option.some.inj h).symm

/-! ### Lookups -/

section

variable {srv : Server} {c : ClientID} {key : GameID} {game game' : Game}

theorem getGameByClientid_lookup (h : srv.getGameByClientid c = some (key, game)) :
    srv.games.lookup key = some game := by
  obtain ⟨e, hfind, he⟩ := Option.map_eq_some_iff.mp h
  obtain ⟨rfl, rfl⟩ := Prod.mk.inj he
  exact AList.mem_entries_iff.mp (List.mem_of_find?_eq_some hfind)

theorem getGameByClientid_getPlayer (h : srv.getGameByClientid c = some (key, game)) :
    ∃ p, game.getPlayer c = some p := by
  obtain ⟨e, hfind, he⟩ := Option.map_eq_some_iff.mp h
  obtain ⟨rfl, rfl⟩ := Prod.mk.inj he
  exact Option.isSome_iff_exists.mp (List.find?_eq_some_iff_append.mp hfind).1

theorem getGameByClientid_eq_none :
    srv.getGameByClientid c = none ↔
      ∀ k g, srv.games.lookup k = some g → ∀ p ∈ g.players, p.clientId ≠ c := by
  unfold getGameByClientid Games.getGameByClientId
  rw [Option.map_eq_none_iff, List.find?_eq_none]
  constructor
  · intro h k g hk p hp hc
    exact h ⟨k, g⟩ (AList.mem_entries_iff.mpr hk) (Game.getPlayer_isSome.mpr ⟨p, hp, hc⟩)
  · intro h e he hsome
    obtain ⟨p, hp, hc⟩ := Game.getPlayer_isSome.mp hsome
    exact h e.1 e.2 (AList.mem_entries_iff.mp he) p hp hc

/-- A write that keeps the player is found again by the next lookup. -/
theorem getGameByClientid_setGame (h : srv.getGameByClientid c = some (key, game))
    (hp : ∃ p, game'.getPlayer c = some p) :
    (srv.setGame key game').getGameByClientid c = some (key, game') := by
  obtain ⟨e, hfind, he⟩ := Option.map_eq_some_iff.mp h
  obtain ⟨rfl, rfl⟩ := Prod.mk.inj he
  obtain ⟨-, l₁, l₂, hsplit, hnot⟩ := List.find?_eq_some_iff_append.mp hfind
  have hentries := AList.entries_replace_of_split game' hsplit
  have hsome : (game'.getPlayer c).isSome = true := Option.isSome_iff_exists.mpr hp
  have hskip : l₁.find? (fun e => (e.2.getPlayer c).isSome) = none := by
    rw [List.find?_eq_none]
    intro x hx
    simpa using hnot x hx
  show ((srv.games.replace e.1 game').entries.find? _).map _ = _
  rw [hentries, List.find?_append, hskip]
  simp [hsome]

@[simp] theorem setGame_clients : (srv.setGame key game).clients = srv.clients := rfl

@[simp] theorem setGame_gamesIdUniq : (srv.setGame key game).gamesIdUniq = srv.gamesIdUniq := rfl

@[simp] theorem setGame_uptime : (srv.setGame key game).uptime = srv.uptime := rfl

theorem lookup_setGame (h : srv.games.lookup key = some game) (k : GameID) :
    (srv.setGame key game').games.lookup k = if k = key then some game' else srv.games.lookup k := by
  show (srv.games.replace key game').lookup k = _
  rw [AList.lookup_replace, h]
  rfl

theorem lookup_setGame_self (h : srv.games.lookup key = some game) :
    (srv.setGame key game').games.lookup key = some game' := by
  rw [lookup_setGame h, if_pos rfl]

theorem lookup_setGame_of_ne {k : GameID} (h : k ≠ key) :
    (srv.setGame key game').games.lookup k = srv.games.lookup k :=
  AList.lookup_replace_of_ne game' h

/-- The second of two writes to one game is the one that counts. -/
theorem setGame_setGame (h : srv.games.lookup key = some game) (g₁ g₂ : Game) :
    (srv.setGame key g₁).setGame key g₂ = srv.setGame key g₂ := by
  show { srv with games := (srv.games.replace key g₁).replace key g₂ } = _
  rw [AList.replace_replace g₁ g₂ h]
  rfl

end

/-! ### Who gets a notification -/

section

variable {srv : Server} {c : ClientID} {key : GameID} {game : Game} {packet : Packet}
  {realtime : Bool} {s : Sent}

theorem mem_sendTo {ids : List ClientID} :
    s ∈ srv.sendTo ids packet realtime ↔
      (∃ cl ∈ srv.clients, cl.id = s.client) ∧ s.client ∈ ids ∧ s.packet = packet ∧
        s.realtime = realtime := by
  obtain ⟨client, p, r⟩ := s
  simp only [sendTo, List.mem_map, List.mem_filter, decide_eq_true_eq, Sent.mk.injEq]
  constructor
  · rintro ⟨cl, ⟨hcl, hid⟩, rfl, rfl, rfl⟩
    exact ⟨⟨cl, hcl, rfl⟩, hid, rfl, rfl⟩
  · rintro ⟨⟨cl, hcl, rfl⟩, hid, rfl, rfl⟩
    exact ⟨cl, ⟨hcl, hid⟩, rfl, rfl, rfl⟩

theorem notify_packet {filter : ClientID → Bool} (h : s ∈ srv.notify c packet filter realtime) :
    s.packet = packet := by
  unfold notify at h
  split at h
  · exact (mem_sendTo.mp h).2.2.1
  · simp at h

theorem notifyWorld_packet {w : UInt8} {incl : Bool}
    (h : s ∈ srv.notifyWorld c w packet incl realtime) : s.packet = packet := by
  unfold notifyWorld at h
  split at h
  · exact (mem_sendTo.mp h).2.2.1
  · simp at h

/-- Only the caller hears what is sent to the caller. -/
theorem notifyPlayer_client (h : s ∈ srv.notifyPlayer c packet) : s.client = c := by
  unfold notifyPlayer notify at h
  split at h
  · have hmem := (mem_sendTo.mp h).2.1
    simpa using (List.mem_filter.mp hmem).2
  · simp at h

end

end Server

end VangersSrv
