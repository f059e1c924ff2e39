/-
When a live update stays behind the reliable packets that were passed before it.

The writer looks into the queue and then for an update, in two steps.  A packet that is queued
between the two, and an update that is stored after it but still before the writer looks, are
taken in the wrong order.  Where no update is passed in such a moment the writer takes it only
after every reliable packet that was passed before it.
-/
import VangersSrv.Client.Reliable

namespace VangersSrv

/-! ### Live updates behind reliable packets -/

/-- Every live update comes after the reliable packets that were passed before it. -/
def Led (calls : Nat → Call) (l : List Nat) : Prop :=
  ∀ i j id before after, i < j → (calls i).way = .queue → (calls j).way = .live id →
    l = before ++ j :: after → i ∈ before

/-- No live update is on the wire before a reliable packet that was passed before it. -/
def NoOvertaking (calls : Nat → Call) (m : Numbered) : Prop := Led calls m.written

/-- Where the step is a `try_send`, it does not meet a full queue. -/
def Numbered.FindsRoom (m m' : Numbered) : Prop :=
  ∀ data rest, m.out.ops = .trySend data :: rest → m'.out.ops = rest →
    m.out.writer ≠ .stopped → 0 < m.out.permits

/-- Where the step passes a live update, the writer is not between a queue that it found empty
and the slot, with a packet in the queue by now. -/
def Numbered.PassesBehind (calls : Nat → Call) (m : Numbered) (e : Option Call) : Prop :=
  ∀ id, e.isSome → (calls m.next).way = .live id → m.out.writer = .slot → m.out.fifo = []

def RoomyStep (calls : Nat → Call) (m : Numbered) (e : Option Call) (m' : Numbered) : Prop :=
  NumberedStep calls m e m' ∧ m.FindsRoom m'

def BehindStep (calls : Nat → Call) (m : Numbered) (e : Option Call) (m' : Numbered) : Prop :=
  RoomyStep calls m e m' ∧ m.PassesBehind calls e

namespace Led

variable {calls : Nat → Call} {l l' : List Nat} {n : Nat}

theorem nil : Led calls [] := by
  intro i j id before after _ _ _ h
  simp at h

/-- What was written first. -/
theorem of_append (h : Led calls (l ++ l')) : Led calls l := by
  intro i j id before after hij hi hj heq
  exact h i j id before (after ++ l') hij hi hj (by simp [heq])

/-- One more packet, before which every reliable packet that is older has been taken if it is an
update. -/
theorem snoc (h : Led calls l)
    (hn : ∀ i id, i < n → (calls i).way = .queue → (calls n).way = .live id → i ∈ l) :
    Led calls (l ++ [n]) := by
  intro i j id before after hij hi hj heq
  rcases List.eq_nil_or_concat after with rfl | ⟨init, x, rfl⟩
  · obtain ⟨rfl, hlast⟩ := List.append_inj' heq rfl
    simp only [List.cons.injEq, and_true] at hlast
    subst hlast
    exact hn i id hij hi hj
  · rw [List.concat_eq_append, ← List.cons_append, ← List.append_assoc] at heq
    obtain ⟨hinit, -⟩ := List.append_inj' heq rfl
    exact h i j id before init hij hi hj hinit

end Led

/-- What holds as long as no packet waits in a task and every update is passed behind the queue. -/
structure Behind (calls : Nat → Call) (m : Numbered) : Prop where
  inTurn : InTurn calls m
  noTask : m.out.tasks = []
  /-- While the writer is about to look for an update, those that it may find or that are about
  to be stored are older than what is in the queue. -/
  slot : m.out.writer = .slot → ∀ n ∈ Numbered.numbers m.out.fifo, ∀ id data,
    m.out.latestObjectUpdates.packets.lookup id = some data ∨ .replaceUpdate id data ∈ m.out.ops →
      data.length < n
  taken : Led calls (Numbered.numbers m.out.taken)

namespace Behind

variable {calls : Nat → Call} {m m' : Numbered} {o : Outbound} {tr : List (Option Call)}

theorem new : Behind calls Numbered.new where
  inTurn := .new
  noTask := rfl
  slot := fun hw => by cases hw
  taken := .nil

/-- When the writer takes an update, every older reliable packet is on the wire. -/
theorem older_written (h : Behind calls m) (hplaced : m.Placed calls) (hw : m.out.writer = .slot)
    {id : I32} {data : Bytes} (hfound : m.out.latestObjectUpdates.packets.lookup id = some data)
    {i : Nat} (hi : (calls i).way = .queue) (hlt : i < data.length) :
    i ∈ Numbered.numbers m.out.taken := by
  have hnext : data.length < m.next := (hplaced.updates id data hfound).2
  have hmem : i ∈ m.line calls := by
    rw [h.inTurn.line (by simp [hw])]
    exact Numbered.mem_passed.mpr ⟨by omega, hi⟩
  -- the line is the wire, the queue and the call being made
  simp only [Numbered.line, Outbound.front, Outbound.back, hw, Writer.hand, Outbound.held, h.noTask,
    List.map_nil, reliable_nil, Numbered.numbers_nil, List.nil_append, List.mem_append] at hmem
  rcases hmem with (hwire | hfifo) | hplacing
  · unfold Outbound.taken
    rw [Numbered.numbers_append]
    exact List.mem_append_left _ (List.mem_filter.mp hwire).1
  · have hbehind := h.slot hw i hfifo id data (Or.inl hfound)
    omega
  · obtain ⟨d, hd, rfl⟩ := List.mem_map.mp hplacing
    obtain ⟨op, hop, hdop⟩ := List.mem_flatMap.mp hd
    cases op with
    | trySend d' =>
        obtain rfl := List.mem_singleton.mp hdop
        have hlast := (hplaced.of_trySend hop).1
        omega
    | _ => cases hdop

/-- An operation leaves what may be found older than the queue. -/
theorem slot_of_op (h : Behind calls m) (hplaced : m.Placed calls) {op : Op} {rest : List Op}
    (hops : m.out.ops = op :: rest) (hw : m.out.writer = .slot) {n : Nat}
    (hn : n ∈ Numbered.numbers ({ m.out with ops := rest }.perform op).fifo) {id : I32} {data : Bytes}
    (hmay : ({ m.out with ops := rest }.perform op).latestObjectUpdates.packets.lookup id = some data ∨
      .replaceUpdate id data ∈ rest) : data.length < n := by
  have hstep : OutboundStep m.out none ({ m.out with ops := rest }.perform op) := .op hops
  have hbefore : m.out.latestObjectUpdates.packets.lookup id = some data ∨
      .replaceUpdate id data ∈ m.out.ops := by
    rcases hmay with hfound | hlater
    · exact hstep.slot_origin hfound
    · exact Or.inr (by rw [hops]; exact List.mem_cons_of_mem _ hlater)
  have hold : ∀ n ∈ Numbered.numbers m.out.fifo, data.length < n :=
    fun n hn => h.slot hw n hn id data hbefore
  cases op with
  | trySend d =>
      have hmem : Op.trySend d ∈ m.out.ops := by simp [hops]
      have hlast := hplaced.of_trySend hmem
      have hrest := hplaced.rest_of_trySend hops
      -- the packet of this call is the youngest of all
      have hyounger : data.length < d.length := by
        have hsent : m.Sent calls (.live id) data := by
          rcases hbefore with hfound | hlater
          · exact hplaced.updates id data hfound
          · rw [hops, hrest] at hlater
            simp at hlater
        have hne : data.length ≠ d.length := by
          intro heq
          have hway := hsent.1
          rw [heq, hlast.2] at hway
          cases hway
        have hlt := hsent.2
        omega
      rcases Outbound.perform_trySend { m.out with ops := rest } d with
        ⟨_, heq⟩ | ⟨_, _, heq⟩ | ⟨_, _, heq⟩
      · rw [heq] at hn
        exact hold n hn
      · rw [heq] at hn
        simp only [Numbered.numbers_append, Numbered.numbers_cons, Numbered.numbers_nil,
          List.mem_append, List.mem_singleton] at hn
        rcases hn with hn | rfl
        · exact hold n hn
        · exact hyounger
      · rw [heq] at hn
        exact hold n hn
  | _ => exact hold n hn

theorem silent (h : Behind calls m) (hplaced : m.Placed calls) (hstep : OutboundStep m.out none o)
    (hroom : m.FindsRoom { m with out := o }) : Behind calls { m with out := o } := by
  have hinTurn : InTurn calls { m with out := o } :=
    h.inTurn.silent hplaced hstep fun _ _ _ _ => h.noTask
  have hmid : ∀ {l₁ l₂ : List FallbackTask} {task : FallbackTask}, m.out.tasks ≠ l₁ ++ task :: l₂ := by
    intro l₁ l₂ task
    rw [h.noTask]
    simp
  refine { inTurn := hinTurn, noTask := ?_, slot := ?_, taken := ?_ }
  · show o.tasks = []
    cases OutboundStep.lineMove hplaced hstep with
    | kept _ _ htasks _ _ _ =>
        rw [h.noTask] at htasks
        exact List.length_eq_zero_iff.mp htasks
    | queued _ _ _ ho => rw [ho]; exact h.noTask
    | waits hops hopen hfull ho => exact absurd (hroom _ _ hops (by rw [ho]) hopen) hfull
    | lost _ _ ho => rw [ho]; exact h.noTask
    | pushed htasks _ _ => exact absurd htasks hmid
    | failed htasks _ _ => exact absurd htasks hmid
    | stopped _ _ ho => rw [ho]; exact h.noTask
  · show o.writer = .slot → ∀ n ∈ Numbered.numbers o.fifo, ∀ id data,
      o.latestObjectUpdates.packets.lookup id = some data ∨ .replaceUpdate id data ∈ o.ops →
        data.length < n
    intro hw n hn id data hmay
    have hnone : o.fifo = [] → data.length < n := by
      intro hfifo
      rw [hfifo] at hn
      cases hn
    cases hstep with
    | op hops =>
        rw [Outbound.perform_writer] at hw
        rw [Outbound.perform_ops] at hmay
        exact h.slot_of_op hplaced hops hw hn hmay
    | drop _ => exact h.slot hw n hn id data hmay
    | claim htasks _ _ => exact absurd htasks hmid
    | push htasks _ => exact absurd htasks hmid
    | failed htasks _ => exact absurd htasks hmid
    | empty _ _ hfifo _ => exact hnone hfifo
    | disconnected _ _ hfifo _ _ => exact hnone hfifo
    | skipFifo _ hclosed => exact hnone (hplaced.orderly.closed hclosed).1
    | _ => cases hw
  · show Led calls (Numbered.numbers o.taken)
    cases hstep.takenMove with
    | kept htaken =>
        rw [htaken]
        exact h.taken
    | @takes data htaken _ hsource =>
        rw [htaken, Numbered.numbers_append]
        refine h.taken.snoc fun i id hlt hi hlive => ?_
        rcases hsource with htime | hfifo | ⟨hw, k, hfound⟩
        · rw [(hplaced.time data htime).1] at hlive
          cases hlive
        · rw [(hplaced.fifo data hfifo).1] at hlive
          cases hlive
        · exact h.older_written hplaced hw hfound hi hlt
    | lost htaken _ =>
        have hled := h.taken
        rw [htaken, Numbered.numbers_append] at hled
        exact hled.of_append

theorem step (h : Behind calls m) (hplaced : m.Placed calls) {e : Option Call}
    (hstep : BehindStep calls m e m') : Behind calls m' := by
  obtain ⟨⟨hstep, hroom⟩, hbehind⟩ := hstep
  cases hstep with
  | call hidle halive hdata =>
      refine { inTurn := ?_, noTask := h.noTask, slot := ?_, taken := h.taken }
      · exact h.inTurn.step hplaced ⟨.call hidle halive hdata, fun _ _ _ _ => h.noTask⟩
      · intro hw n hn id data hmay
        rcases hmay with hfound | hop
        · exact h.slot hw n hn id data (Or.inl hfound)
        · -- a live update is passed, so the queue is empty
          have hcalled : Numbered.Placed calls
              { out := { m.out with ops := (calls m.next).ops (numeral m.next) }
                next := m.next + 1 } := hplaced.call halive
          obtain ⟨hnext, hway⟩ := hcalled.of_replaceUpdate hop
          have hnumber : data.length = m.next := by
            have hlast : m.next + 1 = data.length + 1 := hnext
            omega
          rw [hnumber] at hway
          have hfifo := hbehind id rfl hway hw
          have hmem : n ∈ Numbered.numbers m.out.fifo := hn
          rw [hfifo] at hmem
          cases hmem
  | silent hstep => exact h.silent hplaced hstep hroom

theorem run (h : Transition.Run (BehindStep calls) Numbered.new tr m) :
    m.Placed calls ∧ Behind calls m := by
  refine h.invariant (P := fun m => m.Placed calls ∧ Behind calls m) ⟨.new, .new⟩ ?_
  intro a e b hstep hbefore
  exact ⟨hbefore.1.step hstep.1.1, hbefore.2.step hbefore.1 hstep⟩

end Behind

/-- **Where no reliable packet meets a full queue and no live update is passed while the writer
stands between a queue it found empty and the slot with a packet in the queue by now, no live
update is written before a reliable packet that was passed before it.** -/
theorem live_behind_reliable {calls : Nat → Call} {m : Numbered} {tr : List (Option Call)}
    (h : Transition.Run (BehindStep calls) Numbered.new tr m) : NoOvertaking calls m := by
  have hled := (Behind.run h).2.taken
  unfold Outbound.taken at hled
  rw [Numbered.numbers_append] at hled
  exact hled.of_append

/-- A player's data. -/
def playersData : Packet :=
  { eventSize := 2, action := .playersData, realAction := Action.playersData.toU8, data := [1] }

/-- A server that sends a player's data and then live updates. -/
def dataThenLive : Nat → Call
  | 0 => .send playersData
  | _ + 1 => .sendRealtimeUpdate (firstUpdate 2)

theorem NumberedStep.behind {calls : Nat → Call} {m m' : Numbered} {call : Call}
    (h : NumberedStep calls m (some call) m') (hidle : m.out.ops = []) (hw : m.out.writer ≠ .slot) :
    BehindStep calls m (some call) m' := by
  refine ⟨⟨h, fun data rest hops _ _ => ?_⟩, fun _ _ _ hslot => absurd hslot hw⟩
  rw [hidle] at hops
  cases hops

theorem NumberedStep.behind_silent {calls : Nat → Call} {m m' : Numbered}
    (h : NumberedStep calls m none m') (hroom : 0 < m.out.permits) : BehindStep calls m none m' :=
  ⟨⟨h, fun _ _ _ _ _ => hroom⟩, fun _ hsome => by cases hsome⟩

/-- The writer finds the packet in the queue, and the update after it. -/
theorem live_behind_reliable_one :
    ∃ tr m, Transition.Run (BehindStep dataThenLive) Numbered.new tr m ∧ m.written = [0, 1] ∧
      NoOvertaking dataThenLive m := by
  have hrun := (Transition.Run.nil :
      Transition.Run (BehindStep dataThenLive) Numbered.new [] Numbered.new)
    |>.snoc (NumberedStep.silent (.authenticated rfl) |>.behind_silent (by decide))
    |>.snoc (NumberedStep.call rfl rfl rfl |>.behind rfl (by decide))
    |>.snoc (NumberedStep.silent (.op rfl) |>.behind_silent (by decide))
    |>.snoc (NumberedStep.call rfl rfl rfl |>.behind rfl (by decide))
    |>.snoc (NumberedStep.silent (.op rfl) |>.behind_silent (by decide))
    |>.snoc (NumberedStep.silent (.op rfl) |>.behind_silent (by decide))
    |>.snoc (NumberedStep.silent (.noTime rfl rfl) |>.behind_silent (by decide))
    |>.snoc (NumberedStep.silent (.tryRecv rfl rfl rfl) |>.behind_silent (by decide))
    |>.snoc (NumberedStep.silent (.written rfl) |>.behind_silent (by decide))
    |>.snoc (NumberedStep.silent (.noTime rfl rfl) |>.behind_silent (by decide))
    |>.snoc (NumberedStep.silent (.empty rfl rfl rfl (.inl rfl)) |>.behind_silent (by decide))
    |>.snoc (NumberedStep.silent (.takeUpdate rfl rfl) |>.behind_silent (by decide))
    |>.snoc (NumberedStep.silent (.written rfl) |>.behind_silent (by decide))
  exact ⟨_, _, hrun, rfl, live_behind_reliable hrun⟩

/-- The writer has found the queue empty when the packet is queued and the update is stored: it
takes the update, and the packet waits. -/
theorem live_behind_reliable_fails :
    ¬ ∀ calls tr m, Transition.Run (RoomyStep calls) Numbered.new tr m → NoOvertaking calls m := by
  intro h
  have hroomy : ∀ {m m' : Numbered} {e}, NumberedStep dataThenLive m e m' → 0 < m.out.permits →
      RoomyStep dataThenLive m e m' := fun hstep hroom => ⟨hstep, fun _ _ _ _ _ => hroom⟩
  have hrun := (Transition.Run.nil :
      Transition.Run (RoomyStep dataThenLive) Numbered.new [] Numbered.new)
    |>.snoc (hroomy (.silent (.authenticated rfl)) (by decide))
    |>.snoc (hroomy (.silent (.noTime rfl rfl)) (by decide))
    |>.snoc (hroomy (.silent (.empty rfl rfl rfl (.inl rfl))) (by decide))
    |>.snoc (hroomy (.call rfl rfl rfl) (by decide))
    |>.snoc (hroomy (.silent (.op rfl)) (by decide))
    |>.snoc (hroomy (.call rfl rfl rfl) (by decide))
    |>.snoc (hroomy (.silent (.op rfl)) (by decide))
    |>.snoc (hroomy (.silent (.takeUpdate rfl rfl)) (by decide))
    |>.snoc (hroomy (.silent (.written rfl)) (by decide))
  have hbefore := h _ _ _ hrun 0 1 1 [] [] (by decide) rfl rfl rfl
  cases hbefore

end VangersSrv
