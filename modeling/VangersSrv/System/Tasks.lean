/-
The whole server: the tasks of `client.rs` and `server.rs` and the channels between them.

A listener accepts connections and hands their clients to the main loop over the event channel.
Each connection has a task that greets its client, cuts packets out of what it reads and sends
them to the main loop over the clients channel, and a writer that drains what the main loop
passes to the client.  Both channels are bounded, and a task that finds one full waits.  The
tasks run side by side: a step of the system is one step of one of them.  The ids that the
listener draws are taken to be new.  The event that shuts the server down is left out, and the
writer of a connection starts in the step that tells the main loop of the greeting.
-/
import Mathlib.Logic.Function.Basic
import VangersSrv.Client.Termination
import VangersSrv.Client.Verdict
import VangersSrv.Client.Outbound
import VangersSrv.Server.Registration

namespace VangersSrv

/-! ### The task of a connection -/

/-- Where the task that `event_loop` spawns for a connection stands. -/
inductive Reader
  | auth (received : Bytes)
  /-- About to send `Authenticated`, `Updated` or `Disconnected`. -/
  | authenticated (protocol : UInt8)
  | updated (packet : Packet) (buff : Bytes) (readable offset : Nat)
  | refused
  | closed
  | reading (b : ReadBuffer)
  /-- In the loop over the packets in the buffer. -/
  | parsing (buff : Bytes) (readable offset : Nat)
  | finished
  | panicked

/-- The message a task is about to send, and where it goes on. -/
def Reader.says : Reader → Option (Message × Reader)
  | .authenticated protocol => some (.status (.authenticated protocol), .reading ReadBuffer.new)
  | .updated packet buff readable offset => some (.updated packet, .parsing buff readable offset)
  | .refused => some (.disconnected, .finished)
  | .closed => some (.disconnected, .finished)
  | _ => none

/-- One step of the task between two messages, and the bytes it reads. -/
inductive ReaderStep : Reader → Bytes → Reader → Prop
  | more {received chunk : Bytes} (hne : chunk ≠ []) (hfits : chunk.length ≤ hsBuffLen)
      (hpart : examine (received ++ chunk) = .incomplete) :
      ReaderStep (.auth received) chunk (.auth (received ++ chunk))
  | wrong {received chunk : Bytes} {error : AuthError} (hne : chunk ≠ [])
      (hfits : chunk.length ≤ hsBuffLen) (hwrong : examine (received ++ chunk) = .refused error) :
      ReaderStep (.auth received) chunk .refused
  | otherVersion {received chunk : Bytes} {version : UInt8} (hne : chunk ≠ [])
      (hfits : chunk.length ≤ hsBuffLen) (hversion : examine (received ++ chunk) = .version version)
      (hother : version ≠ protocolVersion) : ReaderStep (.auth received) chunk .refused
  | accepted {received chunk : Bytes} (hne : chunk ≠ []) (hfits : chunk.length ≤ hsBuffLen)
      (hversion : examine (received ++ chunk) = .version protocolVersion) :
      ReaderStep (.auth received) chunk (.authenticated protocolVersion)
  -- the answer does not get through
  | unanswered {received chunk : Bytes} {version : UInt8} (hne : chunk ≠ [])
      (hfits : chunk.length ≤ hsBuffLen) (hversion : examine (received ++ chunk) = .version version) :
      ReaderStep (.auth received) chunk .refused
  | authEnds {received : Bytes} : ReaderStep (.auth received) [] .refused
  | read {b : ReadBuffer} {chunk : Bytes} (hne : chunk ≠ [])
      (hfits : b.buffOffset + chunk.length ≤ i16Max) :
      ReaderStep (.reading b) chunk (.parsing (b.fill chunk) (b.buffOffset + chunk.length) 0)
  -- the end of the stream, an error, or no room for another byte
  | readEnds {b : ReadBuffer} : ReaderStep (.reading b) [] .closed
  | cut {buff : Bytes} {readable offset offset' : Nat} {packet : Packet}
      (hround : ReadBuffer.round buff readable offset = some (packet, offset')) :
      ReaderStep (.parsing buff readable offset) [] (.updated packet buff readable offset')
  | leave {buff : Bytes} {readable offset : Nat} {b : ReadBuffer}
      (hround : ReadBuffer.round buff readable offset = none)
      (hrest : (ReadBuffer.parse buff readable 1 offset).rest = some b) :
      ReaderStep (.parsing buff readable offset) [] (.reading b)
  | panic {buff : Bytes} {readable offset : Nat}
      (hround : ReadBuffer.round buff readable offset = none)
      (hrest : (ReadBuffer.parse buff readable 1 offset).rest = none) :
      ReaderStep (.parsing buff readable offset) [] .panicked

/-! ### The system -/

/-- The capacities of the two channels to the main loop. -/
def clientsCapacity : Nat := 50

def eventsCapacity : Nat := 10

/-- The call that passes a packet to a client. -/
def Sent.call (sent : Sent) : Call :=
  if sent.realtime then .sendRealtimeUpdate sent.packet else .send sent.packet

structure System where
  srv : Server
  /-- What the handler has still to pass to the clients. -/
  sends : List Sent
  /-- The client that the listener is about to hand over. -/
  listener : Option ClientID
  events : List ClientID
  messages : List (ClientID × Message)
  /-- The tasks of the connections that were accepted. -/
  readers : ClientID → Option Reader
  outs : ClientID → Outbound

/-- What a step of the system shows. -/
inductive Label
  | accept (x : ClientID)
  | read (x : ClientID) (chunk : Bytes)
  | said (x : ClientID) (message : Message)
  | round (e : Option Event)
  | call (x : ClientID) (call : Call)
  | silent

namespace System

def new (start : Instant) : System :=
  { srv := Server.new start, sends := [], listener := none, events := [], messages := []
    readers := fun _ => none, outs := fun _ => Outbound.new }

/-- The main loop is in `select!`. -/
def Idle (s : System) : Prop := s.sends = [] ∧ ∀ x, (s.outs x).ops = []

/-- The client of a connection still exists. -/
def Held (s : System) (x : ClientID) : Prop :=
  s.listener = some x ∨ x ∈ s.events ∨ x ∈ s.srv.connected

def setReader (s : System) (x : ClientID) (r : Reader) : System :=
  { s with readers := Function.update s.readers x (some r) }

def setOut (s : System) (x : ClientID) (o : Outbound) : System :=
  { s with outs := Function.update s.outs x o }

theorem ops_update {outs : ClientID → Outbound} {x : ClientID} {o : Outbound}
    (h : ∀ y, (outs y).ops = []) (ho : o.ops = []) (y : ClientID) :
    (Function.update outs x o y).ops = [] := by
  by_cases hy : y = x
  · subst hy
    rw [Function.update_self]
    exact ho
  · rw [Function.update_of_ne hy]
    exact h y

/-- A round of the main loop. -/
def afterRound (s : System) (srv : Server) (sent : List Sent) : System := { s with srv, sends := sent }

end System

/-- A step of a fallback task or of the writer. -/
structure Outbound.Background (o o' : Outbound) : Prop where
  step : OutboundStep o none o'
  moves : o' ≠ o
  ops : o'.ops = o.ops
  dropped : o'.dropped = o.dropped
  /-- The writer is started, or given up, by the task that reads. -/
  handshake : o'.writer = .handshake ↔ o.writer = .handshake

/-- What becomes of the way out when the task has sent a message: after `Authenticated` the
writer starts, and a task whose handshake failed takes the queue with it. -/
def Reader.starts (r : Reader) (o : Outbound) : Outbound :=
  match r with
  | .authenticated _ => { o with writer := .time }
  | .refused => { o with writer := .stopped, fifo := [] }
  | _ => o

/-- One step of one task. -/
inductive SystemStep : System → Label → System → Prop
  -- the listener
  | accept {s : System} {x : ClientID} (hfree : s.listener = none) (hnew : s.readers x = none) :
      SystemStep s (.accept x) { s.setReader x (.auth []) with listener := some x }
  | enqueue {s : System} {x : ClientID} (hlistener : s.listener = some x)
      (hroom : s.events.length < eventsCapacity) :
      SystemStep s .silent { s with listener := none, events := s.events ++ [x] }
  -- the task of a connection
  | read {s : System} {x : ClientID} {r r' : Reader} {chunk : Bytes} (hreader : s.readers x = some r)
      (hstep : ReaderStep r chunk r') : SystemStep s (.read x chunk) (s.setReader x r')
  | say {s : System} {x : ClientID} {r r' : Reader} {message : Message}
      (hreader : s.readers x = some r) (hsay : r.says = some (message, r'))
      (hroom : s.messages.length < clientsCapacity) :
      SystemStep s (.said x message)
        { (s.setReader x r').setOut x (r.starts (s.outs x)) with
          messages := s.messages ++ [(x, message)] }
  -- the main loop
  | tick {s : System} {env : Env} {srv : Server} {sent : List Sent} (hidle : s.Idle)
      (htake : s.srv.take env .tick = some (srv, sent)) :
      SystemStep s (.round (some { env, input := .tick, sent })) (s.afterRound srv sent)
  | add {s : System} {env : Env} {x : ClientID} {rest : List ClientID} {srv : Server}
      {sent : List Sent} (hidle : s.Idle) (hevents : s.events = x :: rest)
      (htake : s.srv.take env (.add (Client.new x)) = some (srv, sent)) :
      SystemStep s (.round (some { env, input := .add (Client.new x), sent }))
        { s.afterRound srv sent with events := rest }
  | take {s : System} {env : Env} {x : ClientID} {message : Message}
      {rest : List (ClientID × Message)} {srv : Server} {sent : List Sent} (hidle : s.Idle)
      (hmessages : s.messages = (x, message) :: rest)
      (htake : s.srv.take env (.message x message) = some (srv, sent)) :
      SystemStep s (.round (some { env, input := .message x message, sent }))
        { s.afterRound srv sent with messages := rest }
  | rehash {s : System} {srv : Server} (hidle : s.Idle) (hrehash : Rehash s.srv srv) :
      SystemStep s (.round none) { s with srv }
  | call {s : System} {sent : Sent} {rest : List Sent} {o : Outbound} (hsends : s.sends = sent :: rest)
      (hidle : ∀ x, (s.outs x).ops = [])
      (hcall : OutboundStep (s.outs sent.client) (some sent.call) o) :
      SystemStep s (.call sent.client sent.call) { s.setOut sent.client o with sends := rest }
  | op {s : System} {x : ClientID} {op : Op} {rest : List Op} (hops : (s.outs x).ops = op :: rest) :
      SystemStep s .silent (s.setOut x ({ s.outs x with ops := rest }.perform op))
  | drop {s : System} {x : ClientID} (hidle : s.Idle) (hreader : s.readers x ≠ none)
      (hgone : ¬ s.Held x) : SystemStep s .silent (s.setOut x { s.outs x with dropped := true })
  -- fallback tasks and writers
  | background {s : System} {x : ClientID} {o : Outbound} (hstep : (s.outs x).Background o) :
      SystemStep s .silent (s.setOut x o)

/-! ### Steps with what they read -/

namespace SystemStep

variable {s : System} {x : ClientID} {srv : Server} {sent : List Sent}

theorem readBytes {r r' : Reader} (chunk : Bytes) (hreader : s.readers x = some r)
    (hstep : ReaderStep r chunk r') : SystemStep s (.read x chunk) (s.setReader x r') :=
  .read hreader hstep

theorem addAt {rest : List ClientID} (now : Instant) (hidle : s.Idle) (hevents : s.events = x :: rest)
    (htake : s.srv.take (.atTime now) (.add (Client.new x)) = some (srv, sent)) :
    SystemStep s (.round (some { env := .atTime now, input := .add (Client.new x), sent }))
      { s.afterRound srv sent with events := rest } :=
  .add hidle hevents htake

theorem takeAt {message : Message} {rest : List (ClientID × Message)} (now : Instant) (hidle : s.Idle)
    (hmessages : s.messages = (x, message) :: rest)
    (htake : s.srv.take (.atTime now) (.message x message) = some (srv, sent)) :
    SystemStep s (.round (some { env := .atTime now, input := .message x message, sent }))
      { s.afterRound srv sent with messages := rest } :=
  .take hidle hmessages htake

end SystemStep

end VangersSrv
