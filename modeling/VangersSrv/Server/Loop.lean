/-
The main loop: `on_update` in `callback/mod.rs` and `Server::start` in `server.rs`.

The loop takes one thing at a time: a tick of the cleanup timer, a new connection from
the event channel, or a message of a connection from the clients channel.  `Step` is
one round; between rounds `rehash` may reorder a hash map, so nothing proved of runs
depends on an iteration order.
-/
import VangersSrv.Callback.Session
import VangersSrv.Callback.Worlds
import VangersSrv.Lib.Transition

namespace VangersSrv

namespace Server

/-! ### on_update -/

/-- The handler of a packet. -/
def handle (env : Env) (srv : Server) (packet : Packet) (clientId : ClientID) : Option Reply :=
  match packet.action with
  | .attachToGame => srv.attachToGame env packet clientId
  | .restoreConnection => srv.restoreConnection packet clientId
  | .serverTimeQuery => srv.serverTimeQuery env packet
  | .gamesListQuery => srv.gamesListQuery env packet
  | .topListQuery => srv.topListQuery env packet
  | .totalPlayersDataQuery => srv.totalPlayersDataQuery clientId
  | .registerName => srv.registerName env packet clientId
  | .setPlayerData => srv.setPlayerData packet clientId
  | .setPosition => srv.setPosition packet clientId
  | .setGameData => srv.setGameData packet clientId
  | .getGameData => srv.getGameData packet clientId
  | .createObject => srv.createObject packet clientId
  | .setWorld => srv.setWorld env packet clientId
  | .leaveWorld => srv.leaveWorld env clientId
  | .updateObject => srv.updateObject packet clientId
  | .deleteObject => srv.deleteObject packet clientId
  | .itemTransfer => srv.itemTransfer packet clientId
  | .directSending => srv.directSending packet clientId
  | .closeSocket => srv.closeSocket env clientId
  | _ => srv.fail (.notImplementedAction packet)

/-- Queues a packet to the first client with the id, if it is connected. -/
def sendClient (srv : Server) (clientId : ClientID) (packet : Packet) : List Sent :=
  match srv.clients.find? fun c => c.id = clientId with
  | some client => [{ client := client.id, packet, realtime := false }]
  | none => []

/-- What `on_update` sends on top of the handler. -/
def resultSends (srv : Server) (clientId : ClientID) : Except OnUpdateError OnUpdateOk → List Sent
  | .ok (.response p) => srv.sendClient clientId p
  | .ok (.broadcast p) => srv.notifyAll clientId p
  | .ok .complete => []
  | .error _ => []

/-- Whether logging the result panics: the text of an unknown action shows its bytes. -/
def logged : Except OnUpdateError OnUpdateOk → Bool
  | .error (.notImplementedAction p) => p.action ≠ .unknown || p.asBytes.isSome
  | _ => true

def onUpdate (env : Env) (srv : Server) (clientId : ClientID) (packet : Packet) : Option Reply := do
  let reply ← srv.handle env packet clientId
  if logged reply.result then
    some { reply with sent := reply.sent ++ reply.srv.resultSends clientId reply.result }
  else none

/-! ### Disconnects and expiry -/

/-- `DISCONNECTED_PLAYER_TTL` -/
def disconnectedPlayerTtl : Nat := 60 * nanosPerSec

/-- The first player of the connection gets a deadline. -/
def markPlayerDisconnected (env : Env) (srv : Server) (clientId : ClientID) : Server :=
  match srv.getGameByClientid clientId with
  | some (key, game) =>
    srv.setGame key (game.modifyPlayer clientId fun p =>
      { p with disconnectedUntil := some (env.now + disconnectedPlayerTtl) })
  | none => srv

/-- Whether a player's deadline has passed. -/
def isExpired (now : Instant) (p : Player) : Bool :=
  match p.disconnectedUntil with
  | some deadline => deadline ≤ now
  | none => false

/-- The clients of the players whose deadline has passed, in iteration order. -/
def expiredClientIds (env : Env) (srv : Server) : List ClientID :=
  ((srv.games.values.flatMap Game.players).filter (isExpired env.now)).map Player.clientId

/-- Closes the sockets one after the other; an error is only logged. -/
def closeAll (env : Env) (srv : Server) : List ClientID → Option (Server × List Sent)
  | [] => some (srv, [])
  | clientId :: rest => do
    let closed ← srv.closeSocket env clientId
    let (srv', sent) ← closed.srv.closeAll env rest
    some (srv', closed.sent ++ sent)

def expireDisconnectedPlayers (env : Env) (srv : Server) : Option (Server × List Sent) :=
  srv.closeAll env (srv.expiredClientIds env)

/-! ### Connections -/

/-- The first client with the id learns the state of its connection. -/
def setConnection (srv : Server) (clientId : ClientID) (connection : Connection) : Server :=
  { srv with
    clients := srv.clients.modifyFirst (fun c => c.id = clientId) fun c =>
      { c with
        connection
        protocol := match connection with
          | .authenticated protocol => protocol
          | .connected => c.protocol } }

def addClient (srv : Server) (client : Client) : Server :=
  { srv with clients := srv.clients ++ [client] }

end Server

/-! ### Rounds of the loop -/

/-- A message of a connection. -/
inductive Message
  | status (connection : Connection)
  | disconnected
  | updated (packet : Packet)
  deriving DecidableEq, Repr

/-- What a round of the loop takes from its timer and its two channels. -/
inductive Input
  | tick
  | add (client : Client)
  | message (clientId : ClientID) (message : Message)
  deriving DecidableEq, Repr

/-- One round on an input. -/
def Server.take (env : Env) (srv : Server) : Input → Option (Server × List Sent)
  | .tick => srv.expireDisconnectedPlayers env
  | .add client => some (srv.addClient client, [])
  | .message id (.status connection) => some (srv.setConnection id connection, [])
  | .message id .disconnected =>
    some ((srv.markPlayerDisconnected env id).dropClient id, [])
  | .message id (.updated packet) =>
    (srv.onUpdate env id packet).map fun reply => (reply.srv, reply.sent)

/-- A hash map was reordered. -/
inductive Rehash : Server → Server → Prop
  | games {srv : Server} {games : Games} :
      games.entries.Perm srv.games.entries → Rehash srv { srv with games }
  | vanjects {srv : Server} {key : GameID} {game : Game} {vanjects : Vanjects} :
      srv.games.lookup key = some game → vanjects.entries.Perm game.vanjects.entries →
        Rehash srv (srv.setGame key { game with vanjects })

/-- What a round shows: its input with the environment it read, and what it sent. -/
structure Event where
  env : Env
  input : Input
  sent : List Sent

/-- One round of the loop, or a reordering between two rounds. -/
inductive Step : Server → Option Event → Server → Prop
  | take {srv srv' : Server} {event : Event} :
      srv.take event.env event.input = some (srv', event.sent) → Step srv (some event) srv'
  | rehash {srv srv' : Server} : Rehash srv srv' → Step srv none srv'

/-- A round that takes a packet. -/
theorem Step.updated {env : Env} {srv : Server} {c : ClientID} {packet : Packet} {r : Reply}
    (h : srv.onUpdate env c packet = some r) :
    Step srv (some { env, input := .message c (.updated packet), sent := r.sent }) r.srv :=
  .take (Option.map_eq_some_iff.mpr ⟨r, h, rfl⟩)

/-- A step, one case for each kind of input. -/
inductive Round (srv : Server) : Option Event → Server → Prop
  | rehash {srv' : Server} (h : Rehash srv srv') : Round srv none srv'
  | tick {env : Env} {srv' : Server} {sent : List Sent}
      (h : srv.closeAll env (srv.expiredClientIds env) = some (srv', sent)) :
      Round srv (some { env, input := .tick, sent }) srv'
  | added {env : Env} {client : Client} :
      Round srv (some { env, input := .add client, sent := [] }) (srv.addClient client)
  | status {env : Env} {c : ClientID} {connection : Connection} :
      Round srv (some { env, input := .message c (.status connection), sent := [] })
        (srv.setConnection c connection)
  | disconnected {env : Env} {c : ClientID} :
      Round srv (some { env, input := .message c .disconnected, sent := [] })
        ((srv.markPlayerDisconnected env c).dropClient c)
  | updated {env : Env} {c : ClientID} {packet : Packet} {r : Reply}
      (h : srv.onUpdate env c packet = some r) :
      Round srv (some { env, input := .message c (.updated packet), sent := r.sent }) r.srv

theorem Step.round {srv srv' : Server} {e : Option Event} (h : Step srv e srv') : Round srv e srv' := by
  cases h with
  | rehash h => exact .rehash h
  | @take _ event htake =>
      obtain ⟨env, input, sent⟩ := event
      match input, htake with
      | .tick, htake => exact .tick htake
      | .add client, htake =>
        obtain ⟨rfl, rfl⟩ := Prod.mk.inj (Option.some.inj htake)
        exact .added
      | .message c (.status connection), htake =>
        obtain ⟨rfl, rfl⟩ := Prod.mk.inj (Option.some.inj htake)
        exact .status
      | .message c .disconnected, htake =>
        obtain ⟨rfl, rfl⟩ := Prod.mk.inj (Option.some.inj htake)
        exact .disconnected
      | .message c (.updated packet), htake =>
        obtain ⟨r, hr, hpair⟩ := Option.map_eq_some_iff.mp htake
        obtain ⟨rfl, rfl⟩ := Prod.mk.inj hpair
        exact .updated hr

/-- What `on_update` made of the packet of a round. -/
theorem Step.onUpdate {env : Env} {srv srv' : Server} {c : ClientID} {packet : Packet}
    {sent : List Sent} (h : Step srv (some { env, input := .message c (.updated packet), sent }) srv') :
    ∃ r, srv.onUpdate env c packet = some r ∧ r.srv = srv' ∧ r.sent = sent := by
  cases h.round with
  | updated hr => exact ⟨_, hr, rfl, rfl⟩

/-- A run of the server from its start. -/
def ServerRun (start : Instant) (tr : List (Option Event)) (srv : Server) : Prop :=
  Transition.Run Step (Server.new start) tr srv

/-- A state the server can be in. -/
def ServerReachable (srv : Server) : Prop :=
  ∃ start, Transition.Reachable Step (Server.new start) srv

/-! ### Playing inputs -/

/-- An environment whose clock shows `now`.  It sorts as `sort_by` does a short list. -/
def Env.atTime (now : Instant) : Env :=
  { now, unix := 0, randomName := [], drain := id, drain_perm := fun _ => .refl _
    sortBy := fun l => some (Ranking.sortBy TopEntry.compare l)
    sortBy_ordered := fun _ _ => rfl
    sortBy_perm := fun l _ hl => Option.some.inj hl ▸ Ranking.perm_sortBy _ l }

/-- A request as the reader of a connection delivers it. -/
def request (action : Action) (data : Bytes) : Packet :=
  { eventSize := BitVec.ofNat 16 (data.length + 1), action, realAction := action.toU8, data }

/-- A request arrives from a connection. -/
def ask (c : ClientID) (action : Action) (data : Bytes) : Input :=
  .message c (.updated (request action data))

/-- The rounds on the inputs, each with the environment it reads, and what they show. -/
def play (srv : Server) : List (Env × Input) → Option (Server × List (Option Event))
  | [] => some (srv, [])
  | (env, input) :: rest => do
    let (mid, sent) ← srv.take env input
    let (last, events) ← play mid rest
    some (last, some { env, input, sent } :: events)

/-- What is played is a run. -/
theorem play_run {srv last : Server} {inputs : List (Env × Input)} {events : List (Option Event)}
    (h : play srv inputs = some (last, events)) : Transition.Run Step srv events last := by
  induction inputs generalizing srv events with
  | nil =>
      simp only [play, Option.some.injEq, Prod.mk.injEq] at h
      obtain ⟨rfl, rfl⟩ := h
      exact .nil
  | cons first rest ih =>
      obtain ⟨env, input⟩ := first
      simp only [play, Option.bind_eq_bind, Option.bind_eq_some_iff, Option.some.injEq,
        Prod.mk.injEq] at h
      obtain ⟨⟨mid, sent⟩, htake, ⟨last', events'⟩, hrest, rfl, rfl⟩ := h
      have hfirst : Transition.Run Step srv [some { env, input, sent }] mid :=
        Transition.Run.nil.snoc (.take htake)
      exact hfirst.append (ih hrest)

/-- A test that succeeds on what is played is about a run. -/
theorem play_any {srv : Server} {inputs : List (Env × Input)}
    {P : Server × List (Option Event) → Bool} (h : (play srv inputs).any P = true) :
    ∃ last events, Transition.Run Step srv events last ∧ P (last, events) = true := by
  obtain ⟨⟨last, events⟩, hplay, hP⟩ := (Option.any_eq_true P _).mp h
  exact ⟨last, events, play_run hplay, hP⟩

/-- What is computed from the state that is played is about a run. -/
theorem play_bind {α : Type} {srv : Server} {inputs : List (Env × Input)} {f : Server → Option α}
    {a : α} (h : ((play srv inputs).map Prod.fst).bind f = some a) :
    ∃ last events, Transition.Run Step srv events last ∧ f last = some a := by
  obtain ⟨last, hlast, ha⟩ := Option.bind_eq_some_iff.mp h
  obtain ⟨⟨_, events⟩, hplay, rfl⟩ := Option.map_eq_some_iff.mp hlast
  exact ⟨_, events, play_run hplay, ha⟩

/-- The rounds on the inputs, as long as each passes the test. -/
def playWhile (test : Server → Input → Server → Bool) (srv : Server) :
    List (Env × Input) → Option (Server × List (Option Event))
  | [] => some (srv, [])
  | (env, input) :: rest => do
    let (mid, sent) ← srv.take env input
    if test srv input mid then do
      let (last, events) ← playWhile test mid rest
      some (last, some { env, input, sent } :: events)
    else none

theorem playWhile_run {test : Server → Input → Server → Bool} {srv last : Server}
    {inputs : List (Env × Input)} {events : List (Option Event)}
    (h : playWhile test srv inputs = some (last, events)) :
    Transition.Run (fun s e s' => Step s e s' ∧ ∃ event, e = some event ∧ test s event.input s' = true)
      srv events last := by
  induction inputs generalizing srv events with
  | nil =>
      simp only [playWhile, Option.some.injEq, Prod.mk.injEq] at h
      obtain ⟨rfl, rfl⟩ := h
      exact .nil
  | cons first rest ih =>
      obtain ⟨env, input⟩ := first
      simp only [playWhile, Option.bind_eq_bind, Option.bind_eq_some_iff] at h
      obtain ⟨⟨mid, sent⟩, htake, h⟩ := h
      split at h
      · rename_i htest
        simp only [Option.bind_eq_some_iff, Option.some.injEq, Prod.mk.injEq] at h
        obtain ⟨⟨last', events'⟩, hrest, rfl, rfl⟩ := h
        have hfirst : Transition.Run (fun s e s' => Step s e s' ∧
            ∃ event, e = some event ∧ test s event.input s' = true)
            srv [some { env, input, sent }] mid :=
          Transition.Run.nil.snoc ⟨.take htake, _, rfl, htest⟩
        exact hfirst.append (ih hrest)
      · cases h

end VangersSrv
