/-
Reliable packets: none is lost, none is written twice, and when they keep their order.

A reliable packet goes from the call into the queue, or into a fallback task and from there
into the queue, then into the writer's hands and onto the wire.  Read from the wire back to the
call these places form one line (`Numbered.line`).  Every step but two leaves the line as it
is: a `try_send` and a task's send put a packet at the end of the queue, past those that wait
in tasks.  So the line is always made of what was passed, and it is in order as long as nothing
goes past a waiting task.
-/
import Mathlib.Data.Multiset.AddSub
import VangersSrv.Client.WireOrder
import VangersSrv.Client.Places

namespace VangersSrv

/-! ### The line -/

/-- The numbers of the reliable ones among packets. -/
def reliable (calls : Nat → Call) (l : List Bytes) : List Nat :=
  (Numbered.numbers l).filter fun n => (calls n).way = .queue

/-- What a call has still to hand to the queue. -/
def Op.queues : Op → List Bytes
  | .trySend data => [data]
  | _ => []

/-- The reliable packet of the call being made, until it is handed over. -/
def Outbound.placing (o : Outbound) : List Bytes := o.ops.flatMap Op.queues

/-- Written, in the writer's hands and in the queue. -/
def Outbound.front (calls : Nat → Call) (o : Outbound) : List Nat :=
  reliable calls o.wire ++ (reliable calls o.writer.hand ++ Numbered.numbers o.fifo)

/-- In a fallback task and in the call being made. -/
def Outbound.back (o : Outbound) : List Nat :=
  Numbered.numbers o.held ++ Numbered.numbers o.placing

namespace Numbered

/-- The reliable packets on their way, those that were written first. -/
def line (calls : Nat → Call) (m : Numbered) : List Nat := m.out.front calls ++ m.out.back

/-- The reliable packets that were passed, in the order of the calls. -/
def passed (calls : Nat → Call) (m : Numbered) : List Nat :=
  (List.range m.next).filter fun n => (calls n).way = .queue

end Numbered

section

variable {calls : Nat → Call} {m m' : Numbered} {o o' : Outbound} {data : Bytes}
  {l l' : List Bytes} {tr : List (Option Call)}

@[simp] theorem reliable_nil : reliable calls [] = [] := rfl

@[simp] theorem reliable_append :
    reliable calls (l ++ l') = reliable calls l ++ reliable calls l' := by
  simp [reliable]

theorem reliable_singleton (h : (calls data.length).way = .queue) :
    reliable calls [data] = [data.length] := by
  simp [reliable, h]

theorem reliable_singleton_nil (h : (calls data.length).way ≠ .queue) :
    reliable calls [data] = [] := by
  simp [reliable, h]

theorem Numbered.mem_passed {n : Nat} :
    n ∈ m.passed calls ↔ n < m.next ∧ (calls n).way = .queue := by
  simp [Numbered.passed]

/-! ### How a step moves the line -/

/-- What one silent step does to the line. -/
inductive LineMove (calls : Nat → Call) (o o' : Outbound) : Prop
  /-- Every packet keeps its place or moves up. -/
  | kept (hfront : o'.front calls = o.front calls) (hback : o'.back = o.back)
      (htasks : o'.tasks.length = o.tasks.length)
      (hstopped : o'.writer = .stopped ↔ o.writer = .stopped)
      (hwire : o.writer = .stopped → o'.wire = o.wire)
      (hclosed : o.rxServerClosed = true → o'.rxServerClosed = true)
  | queued {data : Bytes} {rest : List Op} (hops : o.ops = .trySend data :: rest)
      (hopen : o.writer ≠ .stopped) (hroom : 0 < o.permits)
      (ho : o' = { o with ops := rest, fifo := o.fifo ++ [data] })
  | waits {data : Bytes} {rest : List Op} (hops : o.ops = .trySend data :: rest)
      (hopen : o.writer ≠ .stopped) (hfull : ¬ 0 < o.permits)
      (ho : o' = { o with ops := rest, tasks := o.tasks ++ [{ data, claimed := false }] })
  | lost {data : Bytes} {rest : List Op} (hops : o.ops = .trySend data :: rest)
      (hstopped : o.writer = .stopped) (ho : o' = { o with ops := rest })
  | pushed {l₁ l₂ : List FallbackTask} {data : Bytes}
      (htasks : o.tasks = l₁ ++ { data, claimed := true } :: l₂) (hopen : o.writer ≠ .stopped)
      (ho : o' = { o with tasks := l₁ ++ l₂, fifo := o.fifo ++ [data] })
  | failed {l₁ l₂ : List FallbackTask} {task : FallbackTask}
      (htasks : o.tasks = l₁ ++ task :: l₂) (hstopped : o.writer = .stopped)
      (ho : o' = { o with tasks := l₁ ++ l₂ })
  /-- The writer stops: it is done, was never started, or could not write. -/
  | stopped (hopen : o.writer ≠ .stopped)
      (hcause : o.writer = .wait ∧ o.rxServerClosed = true ∨ o.writer = .handshake ∨
        ∃ data, o.writer = .writing data)
      (ho : o' = { o with writer := .stopped, fifo := [] })

/-- The writer moves on, and the line does not. -/
theorem LineMove.turn {w : Writer} (hfront : o'.front calls = o.front calls)
    (hback : o'.back = o.back) (htasks : o'.tasks = o.tasks) (hw : o.writer = w)
    (hopen : w ≠ .stopped) (hopen' : o'.writer ≠ .stopped)
    (hclosed : o.rxServerClosed = true → o'.rxServerClosed = true) : LineMove calls o o' :=
  .kept hfront hback (by rw [htasks])
    ⟨fun hw' => absurd hw' hopen', fun hw' => absurd (hw.symm.trans hw') hopen⟩
    (fun hw' => absurd (hw.symm.trans hw') hopen) hclosed

/-- An operation that hands nothing to the queue leaves the line alone. -/
theorem LineMove.of_op {op : Op} {rest : List Op} (hops : o.ops = op :: rest)
    (hop : op.queues = []) : LineMove calls o ({ o with ops := rest }.perform op) := by
  have hplacing : o.placing = rest.flatMap Op.queues := by
    simp [Outbound.placing, hops, hop]
  have hback : Outbound.back { o with ops := rest } = o.back := by
    show Numbered.numbers o.held ++ Numbered.numbers (rest.flatMap Op.queues) = o.back
    rw [← hplacing]
    rfl
  cases op with
  | trySend data => cases hop
  | _ => exact .kept rfl hback rfl Iff.rfl (fun _ => rfl) id

/-- The writer takes a packet from a slot, and that is no reliable one. -/
theorem front_of_slot (hw : o.writer.hand = []) (hfifo : o'.fifo = o.fifo) (hwire : o'.wire = o.wire)
    (hhand : o'.writer.hand = [data]) (hway : (calls data.length).way ≠ .queue) :
    o'.front calls = o.front calls := by
  unfold Outbound.front
  rw [hwire, hfifo, hhand, hw, reliable_singleton_nil hway, reliable_nil]

/-- The writer takes the head of the queue. -/
theorem front_of_fifo {rest : List Bytes} (hw : o.writer.hand = []) (hfifo : o.fifo = data :: rest)
    (hway : (calls data.length).way = .queue) :
    Outbound.front calls { o with fifo := rest, writer := .writing data } = o.front calls := by
  show reliable calls o.wire ++ (reliable calls [data] ++ Numbered.numbers rest) = o.front calls
  unfold Outbound.front
  rw [reliable_singleton hway, hw, hfifo]
  rfl

/-- The writer moves on with empty hands. -/
theorem front_of_idle (hw : o.writer.hand = []) (hfifo : o'.fifo = o.fifo) (hwire : o'.wire = o.wire)
    (hhand : o'.writer.hand = []) : o'.front calls = o.front calls := by
  unfold Outbound.front
  rw [hwire, hfifo, hhand, hw]

/-- **A silent step keeps the line or is one of six moves.** -/
theorem OutboundStep.lineMove (hplaced : m.Placed calls) (hstep : OutboundStep m.out none o) :
    LineMove calls m.out o := by
  have hidle : ∀ {w : Writer}, m.out.writer = w → w.hand = [] → m.out.writer.hand = [] := by
    intro w hw hhand
    rw [hw, hhand]
  cases hstep with
  | @op op rest hops =>
      cases op with
      | trySend data =>
          rcases Outbound.perform_trySend { m.out with ops := rest } data with
            ⟨hw, heq⟩ | ⟨hw, hroom, heq⟩ | ⟨hw, hfull, heq⟩
          · exact .lost hops hw heq
          · exact .queued hops hw hroom heq
          · exact .waits hops hw hfull heq
      | _ => exact .of_op hops rfl
  | drop _ => exact .kept rfl rfl rfl Iff.rfl (fun _ => rfl) id
  | @claim l₁ l₂ data htasks _ hopen =>
      have hheld : Outbound.held { m.out with tasks := l₁ ++ { data, claimed := true } :: l₂ }
          = m.out.held := by
        simp [Outbound.held, htasks]
      refine .kept rfl ?_ (by simp [htasks]) Iff.rfl (fun _ => rfl) id
      unfold Outbound.back
      rw [hheld]
      rfl
  | push htasks hopen => exact .pushed htasks hopen rfl
  | failed htasks hstopped => exact .failed htasks hstopped rfl
  | authenticated hw =>
      exact .turn (front_of_idle (hidle hw rfl) rfl rfl rfl) rfl rfl hw (by simp) (by simp) id
  | refused hw => exact .stopped (by simp [hw]) (Or.inr (Or.inl hw)) rfl
  | @takeTime data hw htime =>
      have hway : (calls data.length).way ≠ .queue := by simp [(hplaced.time data htime).1]
      exact .turn (front_of_slot (hidle hw rfl) rfl rfl rfl hway) rfl rfl hw (by simp) (by simp) id
  | noTime hw _ =>
      exact .turn (front_of_idle (hidle hw rfl) rfl rfl rfl) rfl rfl hw (by simp) (by simp) id
  | @tryRecv data rest hw _ hfifo =>
      have hway := (hplaced.fifo data (by simp [hfifo])).1
      exact .turn (front_of_fifo (hidle hw rfl) hfifo hway) rfl rfl hw (by simp) (by simp) id
  | empty hw _ _ _ =>
      exact .turn (front_of_idle (hidle hw rfl) rfl rfl rfl) rfl rfl hw (by simp) (by simp) id
  | disconnected hw _ _ _ _ =>
      exact .turn (front_of_idle (hidle hw rfl) rfl rfl rfl) rfl rfl hw (by simp) (by simp)
        fun _ => rfl
  | skipFifo hw _ =>
      exact .turn (front_of_idle (hidle hw rfl) rfl rfl rfl) rfl rfl hw (by simp) (by simp) id
  | @takeUpdate data l hw htake =>
      obtain ⟨id, hfound, -⟩ := LatestObjectUpdates.takeNext_some htake
      have hway : (calls data.length).way ≠ .queue := by simp [(hplaced.updates id data hfound).1]
      exact .turn (front_of_slot (hidle hw rfl) rfl rfl rfl hway) rfl rfl hw (by simp) (by simp)
        fun hc => hc
  | noUpdate hw _ =>
      exact .turn (front_of_idle (hidle hw rfl) rfl rfl rfl) rfl rfl hw (by simp) (by simp) id
  | finished hw hclosed => exact .stopped (by simp [hw]) (Or.inl ⟨hw, hclosed⟩) rfl
  | wakeTime hw _ _ =>
      exact .turn (front_of_idle (hidle hw rfl) rfl rfl rfl) rfl rfl hw (by simp) (by simp) id
  | @recv data rest hw _ hfifo =>
      have hway := (hplaced.fifo data (by simp [hfifo])).1
      exact .turn (front_of_fifo (hidle hw rfl) hfifo hway) rfl rfl hw (by simp) (by simp) id
  | recvNone hw _ _ _ _ =>
      exact .turn (front_of_idle (hidle hw rfl) rfl rfl rfl) rfl rfl hw (by simp) (by simp)
        fun _ => rfl
  | wakeUpdates hw _ _ =>
      exact .turn (front_of_idle (hidle hw rfl) rfl rfl rfl) rfl rfl hw (by simp) (by simp) id
  | @written data hw =>
      refine .turn ?_ rfl rfl hw (by simp) (by simp) id
      unfold Outbound.front
      simp [hw, Writer.hand]
  | writeError hw => exact .stopped (by simp [hw]) (Or.inr (Or.inr ⟨_, hw⟩)) rfl

/-! ### What a move does to the line -/

/-- `try_send` is the last operation of its call. -/
theorem Numbered.Placed.rest_of_trySend (h : m.Placed calls) {rest : List Op}
    (hops : m.out.ops = .trySend data :: rest) : rest = [] := by
  have hlast : Op.trySend data ∈ m.out.ops := by simp [hops]
  obtain ⟨n, -, before, hbefore⟩ := h.last hlast
  rw [hops, (calls n).ops_eq] at hbefore
  have hmem : Op.trySend data ∈ before ++ .trySend data :: rest := by simp
  split at hbefore
  · simp [hbefore] at hmem
  · simp [hbefore] at hmem
  · -- what comes before the last operation only removes updates
    rcases List.eq_nil_or_concat rest with rfl | ⟨init, op, rfl⟩
    · rfl
    · rw [List.concat_eq_append, ← List.cons_append, ← List.append_assoc] at hbefore
      obtain ⟨hremoves, -⟩ := List.append_inj' hbefore rfl
      have hmem' : Op.trySend data ∈ before ++ .trySend data :: init := by simp
      simp [hremoves] at hmem'

/-- The packet that is handed over stands behind the tasks. -/
theorem Numbered.Placed.back_of_trySend (h : m.Placed calls) {rest : List Op}
    (hops : m.out.ops = .trySend data :: rest) :
    m.out.back = Numbered.numbers m.out.held ++ [data.length] := by
  have hrest := h.rest_of_trySend hops
  simp [Outbound.back, Outbound.placing, hops, hrest, Op.queues]

/-- Once it is handed over, the call has nothing left. -/
theorem Numbered.Placed.back_after (h : m.Placed calls) {rest : List Op}
    (hops : m.out.ops = .trySend data :: rest) (ho : o'.ops = rest) :
    o'.back = Numbered.numbers o'.held := by
  have hrest := h.rest_of_trySend hops
  simp [Outbound.back, Outbound.placing, ho, hrest]

/-- The queue grows at its end. -/
theorem front_of_push (hwire : o'.wire = o.wire) (hwriter : o'.writer = o.writer)
    (hfifo : o'.fifo = o.fifo ++ [data]) : o'.front calls = o.front calls ++ [data.length] := by
  unfold Outbound.front
  rw [hwire, hwriter, hfifo, Numbered.numbers_append]
  simp

/-- A packet that finds room goes from the end of the line to the end of the queue. -/
theorem Numbered.Placed.queued_line (h : m.Placed calls) {rest : List Op}
    (hops : m.out.ops = .trySend data :: rest)
    (ho : o = { m.out with ops := rest, fifo := m.out.fifo ++ [data] }) :
    o.front calls = m.out.front calls ++ [data.length] ∧
      o.back = Numbered.numbers m.out.held := by
  rw [ho]
  exact ⟨front_of_push rfl rfl rfl, h.back_after hops rfl⟩

/-- A packet that finds none stays at the end of the line. -/
theorem Numbered.Placed.waits_line (h : m.Placed calls) {rest : List Op}
    (hops : m.out.ops = .trySend data :: rest)
    (ho : o = { m.out with ops := rest, tasks := m.out.tasks ++ [{ data, claimed := false }] }) :
    o.front calls = m.out.front calls ∧
      o.back = Numbered.numbers m.out.held ++ [data.length] := by
  rw [ho]
  refine ⟨rfl, (h.back_after hops rfl).trans ?_⟩
  simp [Outbound.held]

/-- A call adds its packet to the line if that is reliable. -/
theorem Numbered.line_of_call (hidle : m.out.ops = []) :
    Numbered.line calls { out := { m.out with ops := (calls m.next).ops (numeral m.next) }
                          next := m.next + 1 }
      = m.line calls ++ [m.next].filter fun n => (calls n).way = .queue := by
  have hplacing : Numbered.numbers (((calls m.next).ops (numeral m.next)).flatMap Op.queues)
      = [m.next].filter fun n => (calls n).way = .queue := by
    rw [(calls m.next).ops_eq]
    split
    · rename_i hway
      simp [Op.queues, hway]
    · rename_i hway
      simp [Op.queues, hway]
    · rename_i hway
      have hremoves : ((calls m.next).ends.toList.map Op.removeUpdate).flatMap Op.queues = [] := by
        simp [List.flatMap_eq_nil_iff, Op.queues]
      rw [List.flatMap_append, hremoves]
      simp [Op.queues, hway]
  have hback : m.out.back = Numbered.numbers m.out.held := by
    simp [Outbound.back, Outbound.placing, hidle]
  show m.out.front calls ++ (Numbered.numbers m.out.held ++ Numbered.numbers
    (((calls m.next).ops (numeral m.next)).flatMap Op.queues)) = _
  rw [hplacing, Numbered.line, hback, List.append_assoc]

theorem Numbered.passed_of_call (o : Outbound) :
    Numbered.passed calls { out := o, next := m.next + 1 }
      = m.passed calls ++ [m.next].filter fun n => (calls n).way = .queue := by
  simp only [Numbered.passed, List.range_succ, List.filter_append]

theorem Numbered.nodup_passed : (m.passed calls).Nodup := List.nodup_range.filter _

end

/-! ### Nothing is lost and nothing is written twice -/

/-- A step of the calls, the fallback tasks and `writer_loop` in which no write fails. -/
def WholeStep (calls : Nat → Call) (m : Numbered) (e : Option Call) (m' : Numbered) : Prop :=
  NumberedStep calls m e m' ∧
    (m'.out.writer = .stopped → m.out.writer ≠ .handshake ∧ ∀ data, m.out.writer ≠ .writing data)

/-- The line holds what was passed, and a writer that stopped had found the queue closed. -/
structure Whole (calls : Nat → Call) (m : Numbered) : Prop where
  line : (m.line calls).Perm (m.passed calls)
  closed : m.out.writer = .stopped → m.out.rxServerClosed = true

namespace Whole

variable {calls : Nat → Call} {m m' : Numbered} {o : Outbound} {tr : List (Option Call)}

theorem new : Whole calls Numbered.new where
  line := List.Perm.refl _
  closed := fun hstopped => by cases hstopped

/-- While the server makes a call, or a task waits, the writer has not stopped. -/
theorem open_of_call (h : Whole calls m) (hplaced : m.Placed calls) {op : Op} {rest : List Op}
    (hops : m.out.ops = op :: rest) : m.out.writer ≠ .stopped := by
  intro hstopped
  have hopen := (hplaced.orderly.alive hops).2
  rw [h.closed hstopped] at hopen
  cases hopen

theorem silent (h : Whole calls m) (hplaced : m.Placed calls) (hstep : OutboundStep m.out none o)
    (hwhole : o.writer = .stopped →
      m.out.writer ≠ .handshake ∧ ∀ data, m.out.writer ≠ .writing data) :
    Whole calls { m with out := o } := by
  have hline := h.line
  unfold Numbered.line at hline
  cases OutboundStep.lineMove hplaced hstep with
  | kept hfront hback _ hstopped _ hclosed =>
      refine ⟨?_, fun hw => hclosed (h.closed (hstopped.mp hw))⟩
      show (o.front calls ++ o.back).Perm (m.passed calls)
      rw [hfront, hback]
      exact hline
  | @queued data rest hops hopen _ ho =>
      -- the packet goes past the waiting tasks
      obtain ⟨hfront, hback⟩ := hplaced.queued_line hops ho
      rw [hplaced.back_of_trySend hops] at hline
      refine ⟨?_, fun hw => absurd (by rw [ho] at hw; exact hw) hopen⟩
      show (o.front calls ++ o.back).Perm (m.passed calls)
      rw [hfront, hback, List.append_assoc]
      exact (List.perm_append_comm.append_left _).trans hline
  | @waits data rest hops hopen _ ho =>
      obtain ⟨hfront, hback⟩ := hplaced.waits_line hops ho
      rw [hplaced.back_of_trySend hops] at hline
      refine ⟨?_, fun hw => absurd (by rw [ho] at hw; exact hw) hopen⟩
      show (o.front calls ++ o.back).Perm (m.passed calls)
      rw [hfront, hback]
      exact hline
  | lost hops hstopped _ => exact absurd hstopped (h.open_of_call hplaced hops)
  | @pushed l₁ l₂ data htasks hopen ho =>
      -- a task that has claimed room may be any of those that wait
      have hfront : o.front calls = m.out.front calls ++ [data.length] := by
        rw [ho]
        exact front_of_push rfl rfl rfl
      have hheld : (data.length :: Numbered.numbers o.held).Perm (Numbered.numbers m.out.held) := by
        rw [ho]
        simp only [Outbound.held, htasks, Numbered.numbers, List.map_append, List.map_cons]
        exact List.perm_middle.symm
      refine ⟨?_, fun hw => absurd (by rw [ho] at hw; exact hw) hopen⟩
      have hplacing : o.placing = m.out.placing := by rw [ho]; rfl
      show (o.front calls ++ (Numbered.numbers o.held ++ Numbered.numbers o.placing)).Perm _
      rw [hfront, hplacing, List.append_assoc]
      refine List.Perm.trans (List.Perm.append_left _ ?_) hline
      exact hheld.append_right _
  | failed htasks hstopped _ =>
      exact absurd (h.closed hstopped) (hplaced.orderly.open_of_task htasks)
  | stopped hopen hcause ho =>
      have hcaused := hwhole (by rw [ho])
      rcases hcause with ⟨hw, hclosed⟩ | hw | ⟨data, hw⟩
      · -- the queue was found closed, and is empty
        have hfifo := (hplaced.orderly.closed hclosed).1
        refine ⟨?_, fun _ => by rw [ho]; exact hclosed⟩
        have hfront : o.front calls = m.out.front calls := by
          rw [ho]
          exact front_of_idle (by rw [hw]; rfl) hfifo.symm rfl rfl
        show (o.front calls ++ o.back).Perm (m.passed calls)
        rw [hfront, ho]
        exact hline
      · exact absurd hw hcaused.1
      · exact absurd hw (hcaused.2 data)

theorem step (h : Whole calls m) (hplaced : m.Placed calls) {e : Option Call}
    (hstep : WholeStep calls m e m') : Whole calls m' := by
  obtain ⟨hstep, hwhole⟩ := hstep
  cases hstep with
  | call hidle _ _ =>
      refine { h with line := ?_ }
      rw [Numbered.line_of_call hidle, Numbered.passed_of_call]
      exact h.line.append_right _
  | silent hstep => exact h.silent hplaced hstep hwhole

theorem run (h : Transition.Run (WholeStep calls) Numbered.new tr m) :
    m.Placed calls ∧ Whole calls m := by
  refine h.invariant (P := fun m => m.Placed calls ∧ Whole calls m) ⟨.new, .new⟩ ?_
  intro a e b hstep hbefore
  exact ⟨hbefore.1.step hstep.1, hbefore.2.step hbefore.1 hstep⟩

end Whole

/-- **Reliable packets are neither lost nor duplicated: those that were passed are those on the
wire, in the writer's hands, in the queue, in a fallback task and in the call being made; and
when the writer is done every one of them was written exactly once.** -/
theorem reliable_kept {calls : Nat → Call} {m : Numbered} {tr : List (Option Call)}
    (h : Transition.Run (WholeStep calls) Numbered.new tr m) :
    (m.passed calls : Multiset Nat) = reliable calls m.out.wire + reliable calls m.out.writer.hand
        + Numbered.numbers m.out.fifo + Numbered.numbers m.out.held
        + Numbered.numbers m.out.placing ∧
      (m.out.writer = .stopped →
        ∀ n < m.next, (calls n).way = .queue → m.written.count n = 1) := by
  obtain ⟨hplaced, hwhole⟩ := Whole.run h
  refine ⟨?_, fun hstopped n hn hway => ?_⟩
  · have hline := hwhole.line
    simp only [Multiset.coe_add, Multiset.coe_eq_coe]
    simpa only [Numbered.line, Outbound.front, Outbound.back, List.append_assoc] using hline.symm
  · -- the queue was closed, so nothing is left but the wire
    obtain ⟨hfifo, htasks, hdropped⟩ := hplaced.orderly.closed (hwhole.closed hstopped)
    have hops := hplaced.orderly.quiet hdropped
    have hline : m.line calls = reliable calls m.out.wire := by
      simp [Numbered.line, Outbound.front, Outbound.back, Outbound.held, Outbound.placing,
        hstopped, hfifo, htasks, hops, Writer.hand]
    have hperm := hwhole.line
    rw [hline] at hperm
    have hcount : (reliable calls m.out.wire).count n = 1 := by
      rw [hperm.count_eq]
      exact List.count_eq_one_of_mem Numbered.nodup_passed (Numbered.mem_passed.mpr ⟨hn, hway⟩)
    rw [← hcount, reliable, List.count_filter (by simp [hway])]
    rfl

/-- A server that sends one reliable update after the other. -/
def sends (n : Nat) : Call := .send (firstUpdate (UInt8.ofNat n))

theorem NumberedStep.whole {calls : Nat → Call} {m m' : Numbered} {e : Option Call}
    (h : NumberedStep calls m e m') (hopen : m'.out.writer ≠ .stopped) : WholeStep calls m e m' :=
  ⟨h, fun hstopped => absurd hstopped hopen⟩

/-- A packet is sent and written, and the writer leaves when the server has dropped the client. -/
theorem reliable_kept_one :
    ∃ tr m, Transition.Run (WholeStep sends) Numbered.new tr m ∧ m.out.writer = .stopped ∧
      m.written.count 0 = 1 := by
  have hrun := (Transition.Run.nil : Transition.Run (WholeStep sends) Numbered.new [] Numbered.new)
    |>.snoc (NumberedStep.silent (.authenticated rfl) |>.whole (by simp))
    |>.snoc (NumberedStep.call rfl rfl rfl |>.whole (by simp))
    |>.snoc (NumberedStep.silent (.op rfl) |>.whole (by simp))
    |>.snoc (NumberedStep.silent (.noTime rfl rfl) |>.whole (by simp))
    |>.snoc (NumberedStep.silent (.tryRecv rfl rfl rfl) |>.whole (by simp))
    |>.snoc (NumberedStep.silent (.written rfl) |>.whole (by simp))
    |>.snoc (NumberedStep.silent (.drop rfl) |>.whole (by simp))
    |>.snoc (NumberedStep.silent (.noTime rfl rfl) |>.whole (by simp))
    |>.snoc (NumberedStep.silent (.disconnected rfl rfl rfl rfl rfl) |>.whole (by simp))
    |>.snoc (NumberedStep.silent (.noUpdate rfl rfl) |>.whole (by simp))
    |>.snoc (⟨.silent (.finished rfl rfl), fun _ => ⟨by simp, by simp⟩⟩ : WholeStep sends _ _ _)
  exact ⟨_, _, hrun, rfl, (reliable_kept hrun).2 rfl 0 (by decide) rfl⟩

/-! ### When the order is kept -/

/-- The reliable packets on the wire are the first of those that were passed. -/
def InSendOrder (calls : Nat → Call) (m : Numbered) : Prop :=
  (reliable calls m.out.wire).IsPrefix (m.passed calls)

/-- Where the step is a `try_send`, no earlier packet waits in a fallback task. -/
def Numbered.SendsInTurn (m m' : Numbered) : Prop :=
  ∀ data rest, m.out.ops = .trySend data :: rest → m'.out.ops = rest → m.out.tasks = []

def InTurnStep (calls : Nat → Call) (m : Numbered) (e : Option Call) (m' : Numbered) : Prop :=
  NumberedStep calls m e m' ∧ m.SendsInTurn m'

/-- The line is in order, and at most one packet waits in a task. -/
structure InTurn (calls : Nat → Call) (m : Numbered) : Prop where
  written : InSendOrder calls m
  line : m.out.writer ≠ .stopped → m.line calls = m.passed calls
  oneTask : m.out.tasks.length ≤ 1

namespace InTurn

variable {calls : Nat → Call} {m m' : Numbered} {o : Outbound} {tr : List (Option Call)}

theorem new : InTurn calls Numbered.new where
  written := List.prefix_refl _
  line := fun _ => rfl
  oneTask := Nat.zero_le 1

/-- A line in order starts with what is written. -/
theorem written_of_line (h : m.line calls = m.passed calls) : InSendOrder calls m := by
  unfold InSendOrder
  rw [← h]
  unfold Numbered.line Outbound.front
  rw [List.append_assoc]
  exact List.prefix_append _ _

/-- A move of a writer that has not stopped keeps what it keeps of the line. -/
theorem of_line (h : InTurn calls m) (hopen : m.out.writer ≠ .stopped)
    (hline : o.front calls ++ o.back = m.line calls) (htasks : o.tasks.length ≤ 1) :
    InTurn calls { m with out := o } := by
  have hkept : Numbered.line calls { m with out := o } = m.passed calls :=
    hline.trans (h.line hopen)
  exact { written := written_of_line hkept, line := fun _ => hkept, oneTask := htasks }

theorem silent (h : InTurn calls m) (hplaced : m.Placed calls) (hstep : OutboundStep m.out none o)
    (hturn : m.SendsInTurn { m with out := o }) : InTurn calls { m with out := o } := by
  cases OutboundStep.lineMove hplaced hstep with
  | kept hfront hback htasks hstopped hwire _ =>
      by_cases hw : m.out.writer = .stopped
      · refine { written := ?_, line := fun hopen => absurd (hstopped.mpr hw) hopen
                 oneTask := by rw [htasks]; exact h.oneTask }
        have hwritten := h.written
        unfold InSendOrder at hwritten ⊢
        rw [hwire hw]
        exact hwritten
      · refine h.of_line hw ?_ (by rw [htasks]; exact h.oneTask)
        rw [hfront, hback]
        rfl
  | @queued data rest hops hopen _ ho =>
      -- no task waits, so the end of the queue is the end of the line
      have htasks : m.out.tasks = [] := hturn data rest hops (by rw [ho])
      have hheld : m.out.held = [] := by simp [Outbound.held, htasks]
      obtain ⟨hfront, hback⟩ := hplaced.queued_line hops ho
      refine h.of_line hopen ?_ (by rw [ho]; exact h.oneTask)
      rw [hfront, hback, Numbered.line, hplaced.back_of_trySend hops, hheld]
      simp
  | @waits data rest hops hopen _ ho =>
      have htasks : m.out.tasks = [] := hturn data rest hops (by rw [ho])
      obtain ⟨hfront, hback⟩ := hplaced.waits_line hops ho
      refine h.of_line hopen ?_ (by rw [ho]; simp [htasks])
      rw [hfront, hback, Numbered.line, hplaced.back_of_trySend hops]
  | lost _ hstopped ho =>
      rw [ho]
      exact { h with line := fun hopen => absurd hstopped hopen }
  | @pushed l₁ l₂ data htasks hopen ho =>
      -- the task is the only one
      have hone := h.oneTask
      rw [htasks, List.length_append, List.length_cons] at hone
      have hl₁ : l₁ = [] := List.length_eq_zero_iff.mp (by omega)
      have hl₂ : l₂ = [] := List.length_eq_zero_iff.mp (by omega)
      subst hl₁ hl₂
      have hfront : o.front calls = m.out.front calls ++ [data.length] := by
        rw [ho]
        exact front_of_push rfl rfl rfl
      have hback : m.out.back = data.length :: o.back := by
        rw [ho]
        simp [Outbound.back, Outbound.held, Outbound.placing, htasks]
      refine h.of_line hopen ?_ (by rw [ho]; simp)
      rw [hfront, Numbered.line, hback]
      simp
  | @failed l₁ l₂ task htasks hstopped ho =>
      rw [ho]
      refine { h with line := fun hopen => absurd hstopped hopen, oneTask := ?_ }
      have hone := h.oneTask
      rw [htasks, List.length_append, List.length_cons] at hone
      show (l₁ ++ l₂).length ≤ 1
      rw [List.length_append]
      omega
  | stopped _ _ ho =>
      rw [ho]
      exact { h with line := fun hopen => absurd rfl hopen }

theorem step (h : InTurn calls m) (hplaced : m.Placed calls) {e : Option Call}
    (hstep : InTurnStep calls m e m') : InTurn calls m' := by
  obtain ⟨hstep, hturn⟩ := hstep
  cases hstep with
  | call hidle _ _ =>
      refine { h with written := ?_, line := fun hopen => ?_ }
      · have hwritten := h.written
        unfold InSendOrder at hwritten ⊢
        rw [Numbered.passed_of_call]
        exact hwritten.trans (List.prefix_append _ _)
      · rw [Numbered.line_of_call hidle, Numbered.passed_of_call, h.line hopen]
  | silent hstep => exact h.silent hplaced hstep hturn

theorem run (h : Transition.Run (InTurnStep calls) Numbered.new tr m) :
    m.Placed calls ∧ InTurn calls m := by
  refine h.invariant (P := fun m => m.Placed calls ∧ InTurn calls m) ⟨.new, .new⟩ ?_
  intro a e b hstep hbefore
  exact ⟨hbefore.1.step hstep.1, hbefore.2.step hbefore.1 hstep⟩

end InTurn

/-- **Where no packet is sent past one that waits in a fallback task, the reliable packets are
written in the order in which they were passed.** -/
theorem reliable_in_order {calls : Nat → Call} {m : Numbered} {tr : List (Option Call)}
    (h : Transition.Run (InTurnStep calls) Numbered.new tr m) : InSendOrder calls m :=
  (InTurn.run h).2.written

theorem NumberedStep.inTurn {calls : Nat → Call} {m m' : Numbered} {e : Option Call}
    (h : NumberedStep calls m e m') (hturn : m.out.ops = [] ∨ m.out.tasks = []) :
    InTurnStep calls m e m' := by
  refine ⟨h, fun data rest hops _ => ?_⟩
  rcases hturn with hidle | htasks
  · rw [hidle] at hops
    cases hops
  · exact htasks

/-- The server has sent some packets before the handshake is over. -/
def filled (n : Nat) : Numbered :=
  { out := { Outbound.new with fifo := (List.range n).map numeral }, next := n }

/-- The server passes a packet and hands it over. -/
theorem NumberedStep.sent {m : Numbered} {o : Outbound} (hidle : m.out.ops = [])
    (halive : m.out.dropped = false) (ho : m.out.perform (.trySend (numeral m.next)) = o) :
    ∃ m', m'.out.tasks = m.out.tasks ∧ NumberedStep sends m (some (sends m.next)) m' ∧
      NumberedStep sends m' none { out := o, next := m.next + 1 } := by
  refine ⟨{ out := { m.out with ops := [.trySend (numeral m.next)] }, next := m.next + 1 }, rfl,
    .call hidle halive rfl, ?_⟩
  have hsame : { m.out with ops := [] } = m.out := by rw [← hidle]
  rw [← ho, ← hsame]
  exact .silent (.op rfl)

/-- Nothing waits as long as the queue is not full. -/
theorem fill {n : Nat} (hn : n ≤ queueSize) :
    ∃ tr, Transition.Run (InTurnStep sends) Numbered.new tr (filled n) := by
  induction n with
  | zero => exact ⟨[], .nil⟩
  | succ n ih =>
      obtain ⟨tr, hrun⟩ := ih (by omega)
      have hroom : 0 < (filled n).out.permits := by
        simp [Outbound.permits, filled, Outbound.new]
        omega
      have hqueued : (filled n).out.perform (.trySend (numeral n)) = (filled (n + 1)).out := by
        rw [Outbound.perform, if_neg (by simp [filled, Outbound.new]), if_pos hroom]
        simp [filled, List.range_succ]
      obtain ⟨m, htasks, hcall, hplace⟩ := NumberedStep.sent (m := filled n) rfl rfl hqueued
      exact ⟨_, (hrun.snoc (hcall.inTurn (Or.inl rfl))).snoc (hplace.inTurn (Or.inr htasks))⟩

/-- The writer writes what is in the queue while the server makes no call. -/
theorem drain {m : Numbered} (l l' : List Bytes) (hw : m.out.writer = .time)
    (htime : m.out.latestServerTime = none) (hopen : m.out.rxServerClosed = false)
    (hidle : m.out.ops = []) (hfifo : m.out.fifo = l ++ l') :
    ∃ tr, Transition.Run (InTurnStep sends) m tr
      { m with out := { m.out with fifo := l', writer := .time, wire := m.out.wire ++ l } } := by
  induction l generalizing m with
  | nil =>
      have hsame : { m with out := { m.out with fifo := l', writer := .time
                                                wire := m.out.wire ++ [] } } = m := by
        obtain ⟨out, next⟩ := m
        obtain rfl : out.fifo = l' := hfifo
        rw [← hw]
        simp
      rw [hsame]
      exact ⟨[], .nil⟩
  | cons data l ih =>
      have hnone : NumberedStep sends m none { m with out := { m.out with writer := .fifo } } :=
        .silent (.noTime hw htime)
      have htake : NumberedStep sends { m with out := { m.out with writer := .fifo } } none
          { m with out := { m.out with fifo := l ++ l', writer := .writing data } } :=
        .silent (.tryRecv rfl hopen hfifo)
      have hwrite : NumberedStep sends
          { m with out := { m.out with fifo := l ++ l', writer := .writing data } } none
          { m with out := { m.out with fifo := l ++ l', writer := .time
                                       wire := m.out.wire ++ [data] } } :=
        .silent (.written rfl)
      obtain ⟨tr, hrun⟩ := ih (m := { m with out := { m.out with fifo := l ++ l', writer := .time
                                                                 wire := m.out.wire ++ [data] } })
        rfl htime hopen hidle rfl
      have hfirst := ((Transition.Run.nil.snoc (hnone.inTurn (Or.inl hidle))).snoc
        (htake.inTurn (Or.inl hidle))).snoc (hwrite.inTurn (Or.inl hidle))
      have hwire : m.out.wire ++ [data] ++ l = m.out.wire ++ data :: l := by simp
      rw [hwire] at hrun
      exact ⟨_, hfirst.append hrun⟩

/-- Two packets are sent and written. -/
theorem reliable_in_order_two :
    ∃ tr m, Transition.Run (InTurnStep sends) Numbered.new tr m ∧ m.written = [0, 1] ∧
      InSendOrder sends m := by
  obtain ⟨_, hfilled⟩ := fill (n := 2) (by decide)
  have hstart : InTurnStep sends (filled 2) none
      { filled 2 with out := { (filled 2).out with writer := .time } } :=
    (NumberedStep.silent (.authenticated rfl)).inTurn (Or.inl rfl)
  obtain ⟨_, hdrained⟩ := drain (m := { filled 2 with out := { (filled 2).out with writer := .time } })
    [numeral 0, numeral 1] [] rfl rfl rfl rfl rfl
  have hrun := (hfilled.snoc hstart).append hdrained
  exact ⟨_, _, hrun, rfl, reliable_in_order hrun⟩

/-- The queue is full and the next packet waits in a task.  Before the task runs, the writer makes
room and the server sends one more packet, which is written first. -/
theorem reliable_in_order_fails :
    ¬ ∀ calls tr m, Transition.Run (NumberedStep calls) Numbered.new tr m → InSendOrder calls m := by
  intro h
  have hplain : ∀ {s s' : Numbered} {tr}, Transition.Run (InTurnStep sends) s tr s' →
      Transition.Run (NumberedStep sends) s tr s' := fun hrun => hrun.mono fun _ _ _ hstep => hstep.1
  obtain ⟨rest, hfifo⟩ : ∃ rest, (List.range queueSize).map numeral = numeral 0 :: rest := by
    have hsize : queueSize = queueSize - 1 + 1 := rfl
    rw [hsize, List.range_succ_eq_map, List.map_cons]
    exact ⟨_, rfl⟩
  have hlength : rest.length < queueSize := by
    have hlen := congrArg List.length hfifo
    simp only [List.length_map, List.length_range, List.length_cons] at hlen
    omega
  obtain ⟨_, hfilled⟩ := fill (Nat.le_refl queueSize)
  -- the packet that waits
  let full : Outbound := { (filled queueSize).out with
    tasks := [{ data := numeral queueSize, claimed := false }] }
  have hfull : (filled queueSize).out.perform (.trySend (numeral queueSize)) = full := by
    have hroom : ¬ 0 < (filled queueSize).out.permits := by
      simp [Outbound.permits, filled, Outbound.new]
    rw [Outbound.perform, if_neg (by simp [filled, Outbound.new]), if_neg hroom]
    rfl
  obtain ⟨_, _, hcall, hwait⟩ := NumberedStep.sent (m := filled queueSize) rfl rfl hfull
  -- the writer makes room
  have hstart : NumberedStep sends { out := full, next := queueSize + 1 } none
      { out := { full with writer := .time }, next := queueSize + 1 } := .silent (.authenticated rfl)
  obtain ⟨_, hfirst⟩ := drain (m := { out := { full with writer := .time }, next := queueSize + 1 })
    [numeral 0] rest rfl rfl rfl rfl (by simpa [full, filled] using hfifo)
  -- the packet that is sent past it
  let room : Outbound := { full with fifo := rest, writer := .time, wire := [numeral 0] }
  let past : Outbound := { room with fifo := rest ++ [numeral (queueSize + 1)] }
  have hpast : room.perform (.trySend (numeral (queueSize + 1))) = past := by
    have hroom : 0 < room.permits := by
      simpa [Outbound.permits, room, full] using hlength
    rw [Outbound.perform, if_neg (by simp [room]), if_pos hroom]
  obtain ⟨_, _, hcall', hplace⟩ :=
    NumberedStep.sent (m := { out := room, next := queueSize + 1 }) rfl rfl hpast
  obtain ⟨_, hlast⟩ := drain (m := { out := past, next := queueSize + 1 + 1 })
    (rest ++ [numeral (queueSize + 1)]) [] rfl rfl rfl rfl (by simp [past])
  have hrun := ((((hplain hfilled).snoc hcall).snoc hwait).snoc hstart).append (hplain hfirst)
  have hend := ((hrun.snoc hcall').snoc hplace).append (hplain hlast)
  obtain ⟨after, hafter⟩ := h _ _ _ hend
  -- the wire holds the packets of the full queue and then the one that was sent past the task
  have hreliable : ∀ l, reliable sends l = Numbered.numbers l := fun l => by
    simp [reliable, sends, Call.way, firstUpdate]
  have hwire : Numbered.numbers (numeral 0 :: rest) = List.range queueSize := by
    rw [← hfifo]
    simp [Numbered.numbers, Function.comp_def]
  rw [hreliable] at hafter
  have hwritten : Numbered.numbers ([numeral 0] ++ (rest ++ [numeral (queueSize + 1)]))
      = List.range queueSize ++ [queueSize + 1] := by
    rw [← hwire]
    simp
  have hpassed : Numbered.passed sends { out := past, next := queueSize + 1 + 1 }
      = List.range queueSize ++ [queueSize, queueSize + 1] := by
    simp [Numbered.passed, sends, Call.way, firstUpdate, List.range_succ]
  have heq : List.range queueSize ++ ([queueSize + 1] ++ after)
      = List.range queueSize ++ [queueSize, queueSize + 1] := by
    rw [← List.append_assoc, ← hwritten, ← hpassed]
    exact hafter
  have hcut := List.append_cancel_left heq
  simp at hcut

end VangersSrv
