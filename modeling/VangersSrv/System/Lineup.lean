/-
The lineup that a client makes of its wire.

What is said of the players goes through the queue.  Where no packet is passed to the queue while
another one waits in a fallback task, the queue keeps the order, and a client that has read its wire
knows what the rounds have told it.  So the lineup that it makes of its bytes shows the others as they
are on the server, whenever all that was sent is written.
-/
import VangersSrv.Client.Reliable
import VangersSrv.Client.Tables
import VangersSrv.Server.Lineup
import VangersSrv.System.Resting

namespace VangersSrv

open Replica

/-- What a client that has read its wire knows of the players. -/
def lineupOf (wire : List Bytes) : View (Trait × UInt8) Bytes :=
  (Write.all (wire.map (bytesDo Packet.tells))).on fun k => k.1.blank

/-- A step in which a packet that goes through the queue is passed only while no task waits. -/
def TurnStep (o : Outbound) (e : Option Call) (o' : Outbound) : Prop :=
  OutboundStep o e o' ∧ ∀ call, e = some call →
    call.packet.Built ∧ (call.way = .queue → o.tasks = [])

/-- The reliable packets are in line, and none is handed over while a task waits. -/
structure Queued (calls : Nat → Call) (m : Numbered) : Prop where
  placed : m.Placed calls
  inTurn : InTurn calls m
  alone : ∀ data, .trySend data ∈ m.out.ops → m.out.tasks = []

section

variable {calls : Nat → Call} {m m' : Numbered} {o o' : Outbound} {tr : List (Option Call)}

/-! ### One way out -/

theorem Packet.tells_content (p q : Packet) (h : p.content = q.content) : p.tells = q.tells := by
  simp only [Packet.content, Prod.mk.injEq] at h
  simp [Packet.tells, h.1, h.2.2]

/-- Server times and live updates say nothing of a player. -/
theorem Call.tells_of_way {call : Call} (h : call.way ≠ .queue) : call.packet.tells = .skip := by
  refine tells_of_kind ?_
  cases hway : call.way with
  | time =>
      rw [Call.action_of_time hway]
      decide
  | live id =>
      rw [(Call.action_of_live hway).1]
      decide
  | queue => exact absurd hway h

theorem Call.way_of_trySend {call : Call} {data d : Bytes} (h : .trySend d ∈ call.ops data) :
    call.way = .queue := by
  rw [call.ops_eq] at h
  cases hway : call.way with
  | time => simp [hway] at h
  | live id => simp [hway] at h
  | queue => rfl

namespace Queued

theorem new : Queued calls Numbered.new where
  placed := .new
  inTurn := .new
  alone := fun _ h => by cases h

/-- What is handed over is the last of its call, so no later one finds the task it may leave. -/
theorem alone_silent (h : Queued calls m) (hstep : OutboundStep m.out none o) :
    ∀ data, .trySend data ∈ o.ops → o.tasks = [] := by
  have waits : ∀ {l₁ l₂ : List FallbackTask} {task : FallbackTask} {data : Bytes},
      m.out.tasks = l₁ ++ task :: l₂ → .trySend data ∉ m.out.ops := by
    intro l₁ l₂ task data htasks hop
    rw [h.alone data hop] at htasks
    simp at htasks
  intro data hop
  cases hstep with
  | @op op rest hops =>
      rw [Outbound.perform_ops] at hop
      have htasks : m.out.tasks = [] := h.alone data (by rw [hops]; exact List.mem_cons_of_mem _ hop)
      cases op with
      | trySend d =>
          have hrest : rest = [] := h.placed.rest_of_trySend hops
          simp [hrest] at hop
      | _ => exact htasks
  | claim htasks _ _ => exact absurd hop (waits htasks)
  | push htasks _ => exact absurd hop (waits htasks)
  | failed htasks _ => exact absurd hop (waits htasks)
  | _ => exact h.alone data hop

theorem step {e : Option Call} (h : Queued calls m) (hstep : NumberedStep calls m e m')
    (hturn : e.isSome → (calls m.next).way = .queue → m.out.tasks = []) : Queued calls m' := by
  have hin : InTurnStep calls m e m' :=
    ⟨hstep, fun data rest hops _ => h.alone data (by simp [hops])⟩
  refine ⟨h.placed.step hstep, h.inTurn.step h.placed hin, ?_⟩
  cases hstep with
  | call _ _ _ => exact fun data hop => hturn rfl (Call.way_of_trySend hop)
  | silent hstep => exact h.alone_silent hstep

/-- At rest the reliable packets that were passed are written, in their order. -/
theorem written_eq (h : Queued calls m) (hasleep : m.out.Asleep) (hidle : m.out.ops = [])
    (htasks : m.out.tasks = []) : reliable calls m.out.wire = m.passed calls := by
  have hline := h.inTurn.line (by simp [hasleep.waits])
  simpa [Numbered.line, Outbound.front, Outbound.back, Outbound.held, Outbound.placing, hasleep.waits,
    hasleep.fifo, hidle, htasks, Writer.hand, Numbered.numbers] using hline

end Queued

/-- A run in turn is shown by a numbered one. -/
theorem exists_queued (h : Transition.Run TurnStep Outbound.new tr o) :
    ∃ calls m, Queued calls m ∧ m.Shows calls o ∧ (∀ n, (calls n).packet.Built) ∧
      (List.range m.next).map calls = tr.filterMap id := by
  have hside : Transition.Run (fun a e b => OutboundStep a e b ∧
      ∀ call, e = some call → call.way = .queue → a.tasks = []) Outbound.new tr o :=
    h.mono fun a e b hstep => ⟨hstep.1, fun call hcall => (hstep.2 call hcall).2⟩
  have hmade : ∀ call ∈ tr.filterMap id, call.packet.Built := by
    refine h.history (P := fun tr _ => ∀ call ∈ tr.filterMap id, call.packet.Built)
      (fun call hcall => by cases hcall) ?_
    intro tr a e b _ hstep hbefore call hcall
    rw [List.filterMap_append, List.mem_append] at hcall
    rcases hcall with hcall | hcall
    · exact hbefore call hcall
    · obtain ⟨e', he', hsome⟩ := List.mem_filterMap.mp hcall
      exact (hstep.2 call (List.mem_singleton.mp he' ▸ hsome)).1
  obtain ⟨calls, m, hnumbered, hshows, hcalls, hmem⟩ :=
    Numbered.exists_lockstep (.send serverTime) hside
  refine ⟨calls, m, ?_, hshows, fun n => ?_, hcalls⟩
  · refine hnumbered.invariant (P := Queued calls) .new ?_
    rintro a e b ⟨hstep, o, o', ho, -, hturn⟩ hbefore
    refine hbefore.step hstep fun hsome hway => ?_
    cases hstep with
    | call _ _ _ => exact ho.tasks_nil (hturn _ rfl hway)
    | silent _ => cases hsome
  · rcases hmem n with hother | hn
    · rw [hother]
      exact ⟨by decide, rfl⟩
    · exact hmade _ hn

/-- **The wire makes the lineup that all packets make**, whenever the writer sleeps between two calls
and no task waits. -/
theorem lineupOf_wire (h : Transition.Run TurnStep Outbound.new tr o) (hasleep : o.Asleep)
    (hidle : o.ops = []) (htasks : o.tasks = []) :
    lineupOf o.wire = (Write.all ((tr.filterMap id).map fun call => call.packet.tells)).on
      fun k => k.1.blank := by
  obtain ⟨calls, m, hqueued, hshows, hbuilt, hcalls⟩ := exists_queued h
  have hwritten := hqueued.written_eq (hshows.asleep hasleep) (hshows.ops_nil hidle)
    (hshows.tasks_nil htasks)
  -- what does not go through the queue says nothing
  have hfilter : ∀ l : List Nat, Write.all ((l.filter fun n => (calls n).way = .queue).map
      fun n => (calls n).packet.tells) = Write.all (l.map fun n => (calls n).packet.tells) :=
    fun l => Write.all_filter fun n _ hway => Call.tells_of_way (by simpa using hway)
  have hsame : Write.all (m.written.map fun n => (calls n).packet.tells)
      = Write.all ((List.range m.next).map fun n => (calls n).packet.tells) := by
    rw [← hfilter, ← hfilter (List.range m.next)]
    exact congrArg (fun l => Write.all (l.map fun n => (calls n).packet.tells)) hwritten
  unfold lineupOf
  rw [wire_does Packet.tells_content hshows hbuilt, hsame, ← hcalls, List.map_map]
  rfl

end

/-! ### The system -/

/-- A step in which a packet is passed to the queue of a connection only while no task of it waits. -/
def InTurnTo (x : ClientID) (s : System) (e : Label) (s' : System) : Prop :=
  SystemStep s e s' ∧ ∀ call, e.calledTo x = some call → call.way = .queue → (s.outs x).tasks = []

/-- Such a step after which no client id is held twice and the connection still holds its player. -/
def KeptStep (x : ClientID) (k : GameID) (b : UInt8) (s : System) (e : Label) (s' : System) : Prop :=
  InTurnTo x s e s' ∧ OneHolder s'.srv ∧ x ∈ s'.srv.connected ∧ ∃ g, Holds s'.srv x k g b

section

variable {start : Instant} {x : ClientID} {k : GameID} {g g' : Game} {b : UInt8} {tr tr₁ tr₂ : List Label}
  {a s : System}

theorem CalmStep.inTurnTo {e : Label} (h : CalmStep x a e s) : InTurnTo x a e s :=
  ⟨h.system, fun call hcall _ => (h.calm call hcall).tasks⟩

theorem knownAfter_append {tr tr' : List (Option Event)} {r : View (Trait × UInt8) Bytes} :
    knownAfter x (tr ++ tr') r = knownAfter x tr' (knownAfter x tr r) := by
  rw [knownAfter, List.flatMap_append, saidTo_append, Write.andThen_on]
  rfl

/-- At rest the wire says what the rounds have said. -/
theorem lineupOf_known (h : Transition.Run (InTurnTo x) (System.new start) tr s)
    (hsends : ∀ sent ∈ s.sends, sent.client ≠ x) (hidle : (s.outs x).ops = [])
    (hasleep : (s.outs x).Asleep) (htasks : (s.outs x).tasks = []) :
    lineupOf (s.outs x).wire = knownAfter x (roundsOf tr) fun k => k.1.blank := by
  obtain ⟨t, hrun, hcalls⟩ := outs_run (P := fun o call => call.way = .queue → o.tasks = []) h
  have hcalled := (Delivering.of_run (h.mono fun _ _ _ hstep => hstep.1)).called x
  have hnone : callsTo x s.sends = [] := by
    unfold callsTo
    rw [List.map_eq_nil_iff, List.filter_eq_nil_iff]
    simpa using hsends
  rw [hnone, List.append_nil] at hcalled
  rw [lineupOf_wire hrun hasleep hidle htasks, hcalls, hcalled]
  unfold knownAfter saidTo packetsTo callsTo
  rw [List.map_map, List.map_map]
  congr 3
  funext sent
  simp

/-- **The lineup that a client makes of its wire is right.**  From a state in which the rounds have told
it what the others show, and along every run in which it keeps its connection and its player, no client
id is held twice and no packet goes past one that waits in a task: when everything that was sent to it
has been passed and its writer sleeps, the bytes on its wire show the others as they are on the server. -/
theorem lineup_agrees (h₁ : Transition.Run (InTurnTo x) (System.new start) tr₁ a) (hone : OneHolder a.srv)
    (hin : Holds a.srv x k g b)
    (hknown : Covers (Others b) g.lineup (knownAfter x (roundsOf tr₁) fun k => k.1.blank))
    (h₂ : Transition.Run (KeptStep x k b) a tr₂ s) (hsends : ∀ sent ∈ s.sends, sent.client ≠ x)
    (hidle : (s.outs x).ops = []) (hasleep : (s.outs x).Asleep) (htasks : (s.outs x).tasks = [])
    (hk : s.srv.games.lookup k = some g') : ShowsOthers g' b (lineupOf (s.outs x).wire) := by
  have hreach : ServerReachable a.srv := by
    refine ⟨start, roundsOf tr₁, ?_⟩
    exact (rounds_run (P := fun _ => True) (h₁.mono fun _ _ _ hstep => ⟨hstep.1, trivial⟩)).mono
      fun _ _ _ hstep => hstep.1
  have hheld : Transition.Run (HeldStep x k b) a.srv (roundsOf tr₂) s.srv :=
    rounds_run (h₂.mono fun _ _ _ hstep => ⟨hstep.1.1, hstep.2⟩)
  have hall := h₁.append (h₂.mono fun _ _ _ hstep => hstep.1)
  obtain ⟨hok, -, g₁, hin', hcovers⟩ := covers_run hreach.registryOk hone hin hknown hheld
  obtain rfl := Option.some.inj (hin'.inGame.symm.trans hk)
  have hrounds : roundsOf (tr₁ ++ tr₂) = roundsOf tr₁ ++ roundsOf tr₂ := List.filterMap_append ..
  rw [lineupOf_known hall hsends hidle hasleep htasks, hrounds, knownAfter_append]
  exact .of_covers (hok.game _ _ hk) hcovers

end

/-- Two clients are added, and the second makes a game. -/
def makingInputs : List (Env × Input) :=
  [(Env.atTime 0, .add (Client.new 7)), (Env.atTime 0, .add (Client.new 8)),
    (Env.atTime 0, .message 8 (.status (.authenticated protocolVersion))),
    (Env.atTime 0, ask 8 .attachToGame [0, 0, 0, 0])]

/-- It enters a world, and the first joins it there and creates an item. -/
def joiningInputs : List (Env × Input) :=
  [(Env.atTime 0, ask 8 .setWorld [0, 0, 8]),
    (Env.atTime 0, .message 7 (.status (.authenticated protocolVersion))),
    (Env.atTime 0, ask 7 .attachToGame [1, 0, 0, 0]), (Env.atTime 0, ask 7 .setWorld [0, 0, 8]),
    (Env.atTime 0, ask 7 .createObject [5, 0, 11, 4, 0, 0, 0, 0, 0, 0, 0, 0, 0, 0])]

/-- The maker of a game has read that another player plays in its world. -/
theorem lineup_agrees_joined : ∃ tr₁ a tr₂ s,
    Transition.Run (InTurnTo 8) (System.new 0) tr₁ a ∧ Transition.Run (KeptStep 8 1 1) a tr₂ s ∧
      lineupOf (s.outs 8).wire (.world, 2) = some [0] ∧ lineupOf (s.outs 8).wire (.plays, 2) = some [1] := by
  obtain ⟨tr₀, s₀, hgreeted, hquiet, hrests₀, hsrv₀, hevents, hmessages⟩ := System.greeted
  have hplay : ((playWhile (fun _ _ _ => true) (Server.new 0) makingInputs).bind fun made => do
      let game ← made.1.games.lookup 1
      let later ← playWhile (fun _ _ => heldTest 8 1 1) made.1 joiningInputs
      let after ← later.1.games.lookup 1
      let q ← after.getPlayer 7
      some (heldTest 8 1 1 made.1 && game.players.all fun p => decide (p.bindId = some 1),
        made.2.all fun e => (sentIn e).all fun s => decide (s.packet.action ∉ lineupKinds),
        q.bindId, q.worldId.getD 0, q.status))
    = some (true, true, some 2, 0, .gaming) := by
    decide +kernel
  obtain ⟨⟨made, before⟩, hmade, hplay⟩ := Option.bind_eq_some_iff.mp hplay
  simp only [Option.bind_eq_bind, Option.bind_eq_some_iff, Option.some.injEq, Prod.mk.injEq] at hplay
  obtain ⟨game, hgame, ⟨last, events⟩, hlast, after, hafter, q, hq, htests, hsilent, hbound, hworld,
    hstatus⟩ := hplay
  obtain ⟨htest, halone⟩ := Bool.and_eq_true_iff.mp htests
  have hwaiting : s₀.waiting = makingInputs ++ joiningInputs := by
    rw [System.waiting, hevents, hmessages]
    rfl
  -- the game is made, then the other player joins it
  obtain ⟨t₁, a, hrun₁, hrounds₁, hsrv₁, hleft₁, hrests₁⟩ :=
    calm_play (calm_system hgreeted) hrests₀ hwaiting (by rw [hsrv₀]; exact hmade)
  have hreach := (calm_system hgreeted).append (hrun₁.mono fun _ _ _ hstep => hstep.1.system)
  obtain ⟨t₂, s, hrun₂, -, hsrv₂, -, hrests₂⟩ :=
    calm_play hreach hrests₁ (hleft₁.trans (List.append_nil _).symm) (by rw [hsrv₁]; exact hlast)
  have h₁ : Transition.Run (InTurnTo 8) (System.new 0) (tr₀ ++ t₁) a :=
    (hgreeted.append (hrun₁.mono fun _ _ _ hstep => hstep.1)).mono fun _ _ _ hstep => hstep.inTurnTo
  have h₂ : Transition.Run (KeptStep 8 1 1) a t₂ s :=
    hrun₂.mono fun _ _ _ hstep => ⟨hstep.1.inTurnTo, holds_of_test hstep.2⟩
  obtain ⟨hone, -, g, hin⟩ := holds_of_test htest
  obtain rfl := Option.some.inj (hin.inGame.symm.trans hgame)
  have hknown : Covers (Others 1) g.lineup
      (knownAfter 8 (roundsOf (tr₀ ++ t₁)) fun k => k.1.blank) := by
    have hrounds : roundsOf (tr₀ ++ t₁) = before := by
      rw [roundsOf, List.filterMap_append, List.filterMap_eq_nil_iff.mpr hquiet]
      exact hrounds₁
    rw [hrounds, knownAfter, saidTo_of_kinds fun sent hsent => ?_]
    · exact covers_alone fun p hp => of_decide_eq_true (List.all_eq_true.mp halone p hp)
    · obtain ⟨e, he, hsent⟩ := List.mem_flatMap.mp hsent
      exact of_decide_eq_true (List.all_eq_true.mp (List.all_eq_true.mp hsilent e he) sent hsent)
  have hshows := lineup_agrees h₁ (hsrv₁ ▸ hone) (hsrv₁ ▸ hin) hknown h₂ (by simp [hrests₂.idle.1])
    (hrests₂.idle.2 8) hrests₂.asleep hrests₂.rest.1 (hsrv₂ ▸ hafter)
  have hmem := Game.getPlayer_mem hq
  refine ⟨_, a, t₂, s, h₁, h₂, ?_, ?_⟩
  · rw [hshows.world q hmem 2 hbound (by decide), hworld]
  · rw [hshows.plays q hmem 2 hbound (by decide), if_pos hstatus]

end VangersSrv
