/-
The way out: `send`, `send_realtime_update` and `writer_loop` in `client.rs`.

A packet for a client takes one of three ways.  A server time and a live update wait in
slots where a newer one takes the older one's place; everything else goes through a bounded
queue, and when that is full a task of its own waits for room.  One writer drains the three
into the socket.  The server's calls, the tasks and the writer run side by side, so a call
is the list of its atomic operations and any of the three may move between two of them.
-/
import VangersSrv.Protocol
import VangersSrv.Lib.AssocMap
import VangersSrv.Lib.Transition

namespace VangersSrv

/-! ### Latest object updates -/

structure LatestObjectUpdates where
  order : List I32
  packets : AList fun _ : I32 => Bytes

namespace LatestObjectUpdates

def default : LatestObjectUpdates := { order := [], packets := ∅ }

def replace (l : LatestObjectUpdates) (objectId : I32) (data : Bytes) : LatestObjectUpdates :=
  { order := if objectId ∈ l.packets then l.order else l.order ++ [objectId]
    packets := l.packets.insert objectId data }

/-- Pops ids until one has a packet. -/
def takeFrom (packets : AList fun _ : I32 => Bytes) :
    List I32 → Option Bytes × LatestObjectUpdates
  | [] => (none, { order := [], packets })
  | objectId :: rest =>
    match packets.lookup objectId with
    | some data => (some data, { order := rest, packets := packets.erase objectId })
    | none => takeFrom packets rest

def takeNext (l : LatestObjectUpdates) : Option Bytes × LatestObjectUpdates :=
  takeFrom l.packets l.order

def remove (l : LatestObjectUpdates) (objectId : I32) : LatestObjectUpdates :=
  { order := if objectId ∈ l.packets then l.order.filter (· ≠ objectId) else l.order
    packets := l.packets.erase objectId }

/-- What is taken was pending, and is not any more. -/
theorem takeNext_some {l l' : LatestObjectUpdates} {data : Bytes}
    (h : l.takeNext = (some data, l')) :
    ∃ objectId, l.packets.lookup objectId = some data ∧ l'.packets = l.packets.erase objectId := by
  obtain ⟨order, packets⟩ := l
  unfold takeNext at h
  dsimp only at h ⊢
  induction order with
  | nil => simp [takeFrom] at h
  | cons objectId rest ih =>
      unfold takeFrom at h
      split at h
      · rename_i found hfound
        simp only [Prod.mk.injEq, Option.some.injEq] at h
        obtain ⟨rfl, rfl⟩ := h
        exact ⟨objectId, hfound, rfl⟩
      · exact ih h

/-- Where nothing is taken, nothing that was pending is lost. -/
theorem takeNext_none {l l' : LatestObjectUpdates} (h : l.takeNext = (none, l')) :
    l'.packets = l.packets := by
  obtain ⟨order, packets⟩ := l
  unfold takeNext at h
  dsimp only at h ⊢
  induction order with
  | nil =>
      simp only [takeFrom, Prod.mk.injEq, true_and] at h
      rw [← h]
  | cons objectId rest ih =>
      unfold takeFrom at h
      split at h
      · simp at h
      · exact ih h

end LatestObjectUpdates

/-! ### Calls -/

/-- `packet_object_id` -/
def packetObjectId (packet : Packet) : Option I32 :=
  if packet.data.length < 4 then none else sliceLeToI32 (packet.data.take 4)

/-- The atomic operations of a call. -/
inductive Op
  | replaceTime (data : Bytes)
  | notifyTime
  | removeUpdate (objectId : I32)
  | replaceUpdate (objectId : I32) (data : Bytes)
  | notifyUpdates
  | trySend (data : Bytes)
  deriving DecidableEq, Repr

/-- `send_reliable`: a packet that ends an object's life clears its pending update first. -/
def sendReliable (packet : Packet) (data : Bytes) : List Op :=
  if packet.action = .deleteObject ∨ packet.action = .hideObject then
    (packetObjectId packet).toList.map Op.removeUpdate ++ [.trySend data]
  else [.trySend data]

/-- `send` -/
def send (packet : Packet) (data : Bytes) : List Op :=
  if packet.action = .serverTime then [.replaceTime data, .notifyTime]
  else sendReliable packet data

/-- `send_realtime_update` -/
def sendRealtimeUpdate (packet : Packet) (data : Bytes) : List Op :=
  if packet.action ≠ .updateObject then send packet data
  else
    match packetObjectId packet with
    | some objectId => [.replaceUpdate objectId data, .notifyUpdates]
    | none => sendReliable packet data

/-- A call the server makes for a client. -/
inductive Call
  | send (packet : Packet)
  | sendRealtimeUpdate (packet : Packet)

namespace Call

def packet : Call → Packet
  | .send packet => packet
  | .sendRealtimeUpdate packet => packet

def ops (call : Call) (data : Bytes) : List Op :=
  match call with
  | .send packet => VangersSrv.send packet data
  | .sendRealtimeUpdate packet => VangersSrv.sendRealtimeUpdate packet data

end Call

/-! ### The state of one client's way out -/

/-- A fallback send that waits for room, or has been given some. -/
structure FallbackTask where
  data : Bytes
  claimed : Bool

/-- Where the writer stands. -/
inductive Writer
  /-- The handshake is not over. -/
  | handshake
  /-- About to look for a server time, into the queue, or for an update. -/
  | time | fifo | slot
  /-- Everything was empty. -/
  | wait
  | writing (data : Bytes)
  | stopped
  deriving DecidableEq

/-- What the writer has taken and not written yet. -/
def Writer.hand : Writer → List Bytes
  | .writing data => [data]
  | _ => []

structure Outbound where
  fifo : List Bytes
  tasks : List FallbackTask
  latestServerTime : Option Bytes
  latestObjectUpdates : LatestObjectUpdates
  /-- The permits of the two notifies. -/
  timeNotified : Bool
  updatesNotified : Bool
  /-- What is left of the call the server is making. -/
  ops : List Op
  /-- The server dropped the client. -/
  dropped : Bool
  writer : Writer
  rxServerClosed : Bool
  wire : List Bytes

/-- The size of a client's queue. -/
def queueSize : Nat := 1000

namespace Outbound

def new : Outbound :=
  { fifo := [], tasks := [], latestServerTime := none
    latestObjectUpdates := LatestObjectUpdates.default
    timeNotified := false, updatesNotified := false, ops := [], dropped := false
    writer := .handshake, rxServerClosed := false, wire := [] }

/-- Room in the queue that is neither taken nor claimed. -/
def permits (o : Outbound) : Nat :=
  queueSize - (o.fifo.length + (o.tasks.filter FallbackTask.claimed).length)

/-- One operation of a call.  A queue whose reader is gone takes nothing. -/
def perform (o : Outbound) : Op → Outbound
  | .replaceTime data => { o with latestServerTime := some data }
  | .notifyTime => { o with timeNotified := true }
  | .removeUpdate objectId =>
    { o with latestObjectUpdates := o.latestObjectUpdates.remove objectId }
  | .replaceUpdate objectId data =>
    { o with latestObjectUpdates := o.latestObjectUpdates.replace objectId data }
  | .notifyUpdates => { o with updatesNotified := true }
  | .trySend data =>
    if o.writer = .stopped then o
    else if 0 < o.permits then { o with fifo := o.fifo ++ [data] }
    else { o with tasks := o.tasks ++ [{ data, claimed := false }] }

end Outbound

/-! ### Steps -/

/-- One step of the server, of a fallback task or of the writer.  Only a call shows. -/
inductive OutboundStep : Outbound → Option Call → Outbound → Prop
  | call {o : Outbound} {call : Call} {data : Bytes} (hidle : o.ops = [])
      (halive : o.dropped = false) (hdata : call.packet.asBytes = some data) :
      OutboundStep o (some call) { o with ops := call.ops data }
  | op {o : Outbound} {op : Op} {rest : List Op} (hops : o.ops = op :: rest) :
      OutboundStep o none ({ o with ops := rest }.perform op)
  | drop {o : Outbound} (hidle : o.ops = []) : OutboundStep o none { o with dropped := true }
  -- fallback tasks
  | claim {o : Outbound} {l₁ l₂ : List FallbackTask} {data : Bytes}
      (htasks : o.tasks = l₁ ++ { data, claimed := false } :: l₂) (hroom : 0 < o.permits)
      (hopen : o.writer ≠ .stopped) :
      OutboundStep o none { o with tasks := l₁ ++ { data, claimed := true } :: l₂ }
  | push {o : Outbound} {l₁ l₂ : List FallbackTask} {data : Bytes}
      (htasks : o.tasks = l₁ ++ { data, claimed := true } :: l₂) (hopen : o.writer ≠ .stopped) :
      OutboundStep o none { o with tasks := l₁ ++ l₂, fifo := o.fifo ++ [data] }
  | failed {o : Outbound} {l₁ l₂ : List FallbackTask} {task : FallbackTask}
      (htasks : o.tasks = l₁ ++ task :: l₂) (hclosed : o.writer = .stopped) :
      OutboundStep o none { o with tasks := l₁ ++ l₂ }
  -- the handshake
  | authenticated {o : Outbound} (hw : o.writer = .handshake) :
      OutboundStep o none { o with writer := .time }
  | refused {o : Outbound} (hw : o.writer = .handshake) :
      OutboundStep o none { o with writer := .stopped, fifo := [] }
  -- the writer
  | takeTime {o : Outbound} {data : Bytes} (hw : o.writer = .time)
      (htime : o.latestServerTime = some data) :
      OutboundStep o none { o with latestServerTime := none, writer := .writing data }
  | noTime {o : Outbound} (hw : o.writer = .time) (htime : o.latestServerTime = none) :
      OutboundStep o none { o with writer := .fifo }
  | tryRecv {o : Outbound} {data : Bytes} {rest : List Bytes} (hw : o.writer = .fifo)
      (hopen : o.rxServerClosed = false) (hfifo : o.fifo = data :: rest) :
      OutboundStep o none { o with fifo := rest, writer := .writing data }
  | empty {o : Outbound} (hw : o.writer = .fifo) (hopen : o.rxServerClosed = false)
      (hfifo : o.fifo = []) (hsenders : o.dropped = false ∨ o.tasks ≠ []) :
      OutboundStep o none { o with writer := .slot }
  | disconnected {o : Outbound} (hw : o.writer = .fifo) (hopen : o.rxServerClosed = false)
      (hfifo : o.fifo = []) (hdropped : o.dropped = true) (htasks : o.tasks = []) :
      OutboundStep o none { o with rxServerClosed := true, writer := .slot }
  | skipFifo {o : Outbound} (hw : o.writer = .fifo) (hclosed : o.rxServerClosed = true) :
      OutboundStep o none { o with writer := .slot }
  | takeUpdate {o : Outbound} {data : Bytes} {l : LatestObjectUpdates} (hw : o.writer = .slot)
      (htake : o.latestObjectUpdates.takeNext = (some data, l)) :
      OutboundStep o none { o with latestObjectUpdates := l, writer := .writing data }
  | noUpdate {o : Outbound} {l : LatestObjectUpdates} (hw : o.writer = .slot)
      (htake : o.latestObjectUpdates.takeNext = (none, l)) :
      OutboundStep o none { o with latestObjectUpdates := l, writer := .wait }
  | finished {o : Outbound} (hw : o.writer = .wait) (hclosed : o.rxServerClosed = true) :
      OutboundStep o none { o with writer := .stopped, fifo := [] }
  -- `select!` polls its branches one after the other, so any that became ready may be taken
  | wakeTime {o : Outbound} (hw : o.writer = .wait) (hopen : o.rxServerClosed = false)
      (hnotified : o.timeNotified = true) :
      OutboundStep o none { o with timeNotified := false, writer := .time }
  | recv {o : Outbound} {data : Bytes} {rest : List Bytes} (hw : o.writer = .wait)
      (hopen : o.rxServerClosed = false) (hfifo : o.fifo = data :: rest) :
      OutboundStep o none { o with fifo := rest, writer := .writing data }
  | recvNone {o : Outbound} (hw : o.writer = .wait) (hopen : o.rxServerClosed = false)
      (hfifo : o.fifo = []) (hdropped : o.dropped = true) (htasks : o.tasks = []) :
      OutboundStep o none { o with rxServerClosed := true, writer := .time }
  | wakeUpdates {o : Outbound} (hw : o.writer = .wait) (hopen : o.rxServerClosed = false)
      (hnotified : o.updatesNotified = true) :
      OutboundStep o none { o with updatesNotified := false, writer := .time }
  | written {o : Outbound} {data : Bytes} (hw : o.writer = .writing data) :
      OutboundStep o none { o with wire := o.wire ++ [data], writer := .time }
  | writeError {o : Outbound} {data : Bytes} (hw : o.writer = .writing data) :
      OutboundStep o none { o with writer := .stopped, fifo := [] }

/-- The bytes of the packets that were passed, in the order of the calls. -/
def passed (tr : List (Option Call)) : List Bytes :=
  tr.filterMap fun e => e.bind fun call => call.packet.asBytes

end VangersSrv
