/-
The end of an object's life and its live updates.

A `DELETE_OBJECT` or `HIDE_OBJECT` first removes the pending live update of its object and then
goes to the queue.  An update that was passed before it has either left the slot by then, and
is ahead of it on the way to the wire, or it is gone.
-/
import VangersSrv.Client.Places
import VangersSrv.Client.Priority

namespace VangersSrv

section

variable {calls : Nat → Call} {m m' : Numbered} {o o' : Outbound} {id : I32} {data : Bytes}
  {i j : Nat}

/-! ### The removal of a pending update -/

/-- A packet that ends an object's life is reliable. -/
theorem Call.way_of_ends {call : Call} (h : call.ends = some id) : call.way = .queue := by
  unfold Call.ends at h
  split at h
  · rename_i haction
    have hneither : call.packet.action ≠ .serverTime ∧ call.packet.action ≠ .updateObject := by
      rcases haction with haction | haction
      · simp [haction]
      · simp [haction]
    cases call with
    | send packet => exact if_neg hneither.1
    | sendRealtimeUpdate packet => exact (if_neg hneither.1).trans (if_neg hneither.2)
  · cases h

/-- The removal stays to be done until it is done. -/
theorem OutboundStep.removes (hstep : OutboundStep o none o') (hop : .removeUpdate id ∈ o.ops) :
    .removeUpdate id ∈ o'.ops ∨ o'.latestObjectUpdates.packets.lookup id = none := by
  cases hstep with
  | @op op rest hops =>
      rw [hops] at hop
      rcases List.mem_cons.mp hop with rfl | hlater
      · refine Or.inr ?_
        show (o.latestObjectUpdates.packets.erase id).lookup id = none
        exact AList.lookup_erase id _
      · refine Or.inl ?_
        rw [Outbound.perform_ops]
        exact hlater
  | _ => exact Or.inl hop

/-- A packet in the queue or in a task was there before, or was handed over by the step. -/
theorem OutboundStep.queue_origin (hstep : OutboundStep o none o')
    (hmem : data ∈ o'.fifo ++ o'.held) :
    data ∈ o.fifo ++ o.held ∨ ∃ rest, o.ops = .trySend data :: rest := by
  have hrest : ∀ {rest}, o.fifo = rest ∨ (∃ d, o.fifo = d :: rest) → data ∈ rest ++ o.held →
      data ∈ o.fifo ++ o.held := by
    intro rest hfifo hmem
    rcases hfifo with hfifo | ⟨d, hfifo⟩
    · rw [hfifo]
      exact hmem
    · rw [hfifo]
      exact List.mem_cons_of_mem d hmem
  have hgone : data ∈ [] ++ o.held → data ∈ o.fifo ++ o.held := fun hmem =>
    List.mem_append_right _ hmem
  cases hstep with
  | @op op rest hops =>
      cases op with
      | trySend d =>
          rcases Outbound.perform_trySend { o with ops := rest } d with
            ⟨_, heq⟩ | ⟨_, _, heq⟩ | ⟨_, _, heq⟩
          · rw [heq] at hmem
            exact Or.inl hmem
          · rw [heq] at hmem
            simp only [Outbound.held, List.mem_append, List.mem_singleton] at hmem ⊢
            rcases hmem with (hfifo | rfl) | hheld
            · exact Or.inl (Or.inl hfifo)
            · exact Or.inr ⟨rest, hops⟩
            · exact Or.inl (Or.inr hheld)
          · rw [heq] at hmem
            simp only [Outbound.held, List.map_append, List.map_cons, List.map_nil, List.mem_append,
              List.mem_singleton] at hmem ⊢
            rcases hmem with hfifo | hheld | rfl
            · exact Or.inl (Or.inl hfifo)
            · exact Or.inl (Or.inr hheld)
            · exact Or.inr ⟨rest, hops⟩
      | _ => exact Or.inl hmem
  | claim htasks _ _ =>
      refine Or.inl ?_
      simpa [Outbound.held, htasks] using hmem
  | push htasks _ =>
      refine Or.inl ?_
      simp only [Outbound.held, htasks, List.map_append, List.map_cons, List.mem_append,
        List.mem_cons, List.not_mem_nil, or_false] at hmem ⊢
      tauto
  | failed htasks _ =>
      refine Or.inl ?_
      simp only [Outbound.held, htasks, List.map_append, List.map_cons, List.mem_append,
        List.mem_cons] at hmem ⊢
      tauto
  | tryRecv _ _ hfifo => exact Or.inl (hrest (Or.inr ⟨_, hfifo⟩) hmem)
  | recv _ _ hfifo => exact Or.inl (hrest (Or.inr ⟨_, hfifo⟩) hmem)
  | refused _ => exact Or.inl (hgone hmem)
  | finished _ _ => exact Or.inl (hgone hmem)
  | writeError _ => exact Or.inl (hgone hmem)
  | _ => exact Or.inl hmem

/-! ### The barrier -/

/-- An older update of an object does not come after the packet that ended the object's life. -/
structure Barred (id : I32) (i j : Nat) (m : Numbered) : Prop where
  /-- As long as the removal is still to be done the packet is in its call only; after it the
  update is not in the slot. -/
  slot : j < m.next →
    (.removeUpdate id ∈ m.out.ops ∧ j ∉ Numbered.numbers m.out.taken ∧
      j ∉ Numbered.numbers (m.out.fifo ++ m.out.held)) ∨
    ∀ data, m.out.latestObjectUpdates.packets.lookup id = some data → data.length ≠ i
  taken : ∀ before after, Numbered.numbers m.out.taken = before ++ j :: after → i ∉ after

namespace Barred

theorem new : Barred id i j Numbered.new where
  slot := fun hlt => absurd hlt (Nat.not_lt_zero j)
  taken := fun before after heq => by simp [Outbound.taken, Numbered.new, Outbound.new, Writer.hand] at heq

/-- The packet that is taken is not the update: that could only come from the slot. -/
theorem source_ne (hplaced : m.Placed calls) (hi : (calls i).way = .live id)
    (hslot : ∀ data, m.out.latestObjectUpdates.packets.lookup id = some data → data.length ≠ i)
    (hsource : m.out.latestServerTime = some data ∨ data ∈ m.out.fifo ∨
      m.out.writer = .slot ∧ ∃ id, m.out.latestObjectUpdates.packets.lookup id = some data) :
    data.length ≠ i := by
  intro heq
  rw [← heq] at hi
  rcases hsource with htime | hfifo | ⟨-, k, hfound⟩
  · rw [(hplaced.time data htime).1] at hi
    cases hi
  · rw [(hplaced.fifo data hfifo).1] at hi
    cases hi
  · have hway := (hplaced.updates k data hfound).1
    rw [hi] at hway
    cases hway
    exact hslot data hfound heq

/-- A packet that is still in its call only is not taken. -/
theorem not_taken (hplaced : m.Placed calls) (hj : (calls j).way = .queue)
    (hstep : OutboundStep m.out none o) (htaken : j ∉ Numbered.numbers m.out.taken)
    (hqueue : j ∉ Numbered.numbers (m.out.fifo ++ m.out.held)) : j ∉ Numbered.numbers o.taken := by
  cases hstep.takenMove with
  | kept heq =>
      rw [heq]
      exact htaken
  | @takes data heq _ hsource =>
      rw [heq, Numbered.numbers_append, List.mem_append, Numbered.numbers_cons, Numbered.numbers_nil,
        List.mem_singleton]
      rintro (hmem | rfl)
      · exact htaken hmem
      · rcases hsource with htime | hfifo | ⟨-, k, hfound⟩
        · rw [(hplaced.time data htime).1] at hj
          cases hj
        · exact hqueue (List.mem_map.mpr ⟨data, List.mem_append_left _ hfifo, rfl⟩)
        · rw [(hplaced.updates k data hfound).1] at hj
          cases hj
  | lost heq _ =>
      intro hmem
      rw [heq, Numbered.numbers_append] at htaken
      exact htaken (List.mem_append_left _ hmem)

theorem silent (h : Barred id i j m) (hplaced : m.Placed calls) (hij : i < j)
    (hi : (calls i).way = .live id) (hj : (calls j).way = .queue)
    (hstep : OutboundStep m.out none o) : Barred id i j { m with out := o } := by
  refine { slot := fun hlt => ?_, taken := ?_ }
  · rcases h.slot hlt with ⟨hop, htaken, hqueue⟩ | hslot
    · rcases hstep.removes hop with hstill | hnone
      · refine Or.inl ⟨hstill, not_taken hplaced hj hstep htaken hqueue, fun hmem => ?_⟩
        obtain ⟨data, hdata, rfl⟩ := List.mem_map.mp hmem
        rcases hstep.queue_origin hdata with hbefore | ⟨rest, hops⟩
        · exact hqueue (List.mem_map.mpr ⟨data, hbefore, rfl⟩)
        · -- the packet is handed over last, when nothing is left to be removed
          rw [hops, hplaced.rest_of_trySend hops] at hop
          simp at hop
      · refine Or.inr fun data hfound => ?_
        rw [hnone] at hfound
        cases hfound
    · refine Or.inr fun data hfound => ?_
      rcases hstep.slot_origin hfound with hbefore | hop
      · exact hslot data hbefore
      · -- the update of the last call, which is not older than the packet
        have hnext := (hplaced.of_replaceUpdate hop).1
        have hlt' : j < m.next := hlt
        omega
  · show ∀ before after, Numbered.numbers o.taken = before ++ j :: after → i ∉ after
    cases hstep.takenMove with
    | kept heq =>
        rw [heq]
        exact h.taken
    | @takes data heq _ hsource =>
        rw [heq, Numbered.numbers_append]
        intro before after hsplit
        rcases List.eq_nil_or_concat after with rfl | ⟨init, x, rfl⟩
        · exact List.not_mem_nil
        · rw [List.concat_eq_append, ← List.cons_append, ← List.append_assoc] at hsplit
          obtain ⟨hinit, hx⟩ := List.append_inj' hsplit rfl
          have hmem : j ∈ Numbered.numbers m.out.taken := by
            rw [hinit]
            simp
          have hlt : j < m.next := by
            obtain ⟨d, hd, rfl⟩ := List.mem_map.mp hmem
            rcases List.mem_append.mp hd with hd | hd
            · exact hplaced.wire d hd
            · exact hplaced.hand d hd
          have hslot : ∀ data, m.out.latestObjectUpdates.packets.lookup id = some data →
              data.length ≠ i := by
            rcases h.slot hlt with ⟨-, htaken, -⟩ | hslot
            · exact absurd hmem htaken
            · exact hslot
          have hne : data.length ≠ i := source_ne hplaced hi hslot hsource
          simp only [Numbered.numbers_cons, Numbered.numbers_nil, List.cons.injEq, and_true] at hx
          rw [List.concat_eq_append, List.mem_append, List.mem_singleton]
          rintro (hlater | rfl)
          · exact h.taken before init hinit hlater
          · exact hne hx
    | lost heq _ =>
        intro before after hsplit hmem
        refine h.taken before (after ++ Numbered.numbers m.out.writer.hand) ?_
          (List.mem_append_left _ hmem)
        rw [heq, Numbered.numbers_append, hsplit]
        simp

theorem step (h : Barred id i j m) (hplaced : m.Placed calls) (hij : i < j)
    (hi : (calls i).way = .live id) (hj : (calls j).ends = some id) {e : Option Call}
    (hstep : NumberedStep calls m e m') : Barred id i j m' := by
  cases hstep with
  | call hidle _ _ =>
      refine { h with slot := fun hlt => ?_ }
      have hlt' : j < m.next + 1 := hlt
      by_cases hold : j < m.next
      · rcases h.slot hold with ⟨hop, -⟩ | hslot
        · rw [hidle] at hop
          cases hop
        · exact Or.inr hslot
      · -- the packet is passed now, so it is nowhere else
        obtain rfl : j = m.next := by omega
        refine Or.inl ⟨?_, fun hmem => ?_, fun hmem => ?_⟩
        · show Op.removeUpdate id ∈ (calls m.next).ops (numeral m.next)
          rw [(calls m.next).ops_eq, Call.way_of_ends hj]
          simp [hj]
        · obtain ⟨data, hdata, heq⟩ := List.mem_map.mp hmem
          have hbound : data.length < m.next := by
            rcases List.mem_append.mp hdata with hdata | hdata
            · exact hplaced.wire data hdata
            · exact hplaced.hand data hdata
          omega
        · obtain ⟨data, hdata, heq⟩ := List.mem_map.mp hmem
          have hbound : data.length < m.next := by
            rcases List.mem_append.mp hdata with hdata | hdata
            · exact (hplaced.fifo data hdata).2
            · obtain ⟨task, htask, rfl⟩ := List.mem_map.mp hdata
              exact (hplaced.tasks task htask).2
          omega
  | silent hstep => exact h.silent hplaced hij hi (Call.way_of_ends hj) hstep

theorem run (hij : i < j) (hi : (calls i).way = .live id) (hj : (calls j).ends = some id)
    {tr : List (Option Call)} (h : Transition.Run (NumberedStep calls) Numbered.new tr m) :
    m.Placed calls ∧ Barred id i j m := by
  refine h.invariant (P := fun m => m.Placed calls ∧ Barred id i j m) ⟨.new, .new⟩ ?_
  intro a e b hstep hbefore
  exact ⟨hbefore.1.step hstep, hbefore.2.step hbefore.1 hij hi hj hstep⟩

end Barred

/-- **A live update that was passed before a `DELETE_OBJECT` or `HIDE_OBJECT` of its object is
not written after it.** -/
theorem lifecycle_barrier {tr : List (Option Call)}
    (h : Transition.Run (NumberedStep calls) Numbered.new tr m) (hij : i < j)
    (hi : (calls i).way = .live id) (hj : (calls j).ends = some id) :
    ∀ before after, m.written = before ++ j :: after → i ∉ after := by
  intro before after hsplit hmem
  refine (Barred.run hij hi hj h).2.taken before
    (after ++ Numbered.numbers m.out.writer.hand) ?_ (List.mem_append_left _ hmem)
  unfold Outbound.taken
  rw [Numbered.numbers_append]
  show m.written ++ _ = _
  rw [hsplit]
  simp

end

/-- The end of object 1. -/
def firstDelete : Packet :=
  { eventSize := 5, action := .deleteObject, realAction := Action.deleteObject.toU8
    data := [1, 0, 0, 0] }

/-- A server that sends a live update of an object and then deletes it. -/
def liveThenDelete : Nat → Call
  | 0 => .sendRealtimeUpdate (firstUpdate 1)
  | _ + 1 => .send firstDelete

/-- The writer holds the update while the object is deleted. -/
theorem lifecycle_barrier_held :
    ∃ tr m, Transition.Run (NumberedStep liveThenDelete) Numbered.new tr m ∧ m.written = [0, 1] ∧
      ∀ before after, m.written = before ++ 1 :: after → 0 ∉ after := by
  have hrun := (Transition.Run.nil :
      Transition.Run (NumberedStep liveThenDelete) Numbered.new [] Numbered.new)
    |>.snoc (.silent (.authenticated rfl))
    |>.snoc (.call rfl rfl rfl)
    |>.snoc (.silent (.op rfl))
    |>.snoc (.silent (.op rfl))
    |>.snoc (.silent (.noTime rfl rfl))
    |>.snoc (.silent (.empty rfl rfl rfl (.inl rfl)))
    |>.snoc (.silent (.takeUpdate rfl rfl))
    |>.snoc (.call rfl rfl rfl)
    |>.snoc (.silent (.op rfl))
    |>.snoc (.silent (.op rfl))
    |>.snoc (.silent (.written rfl))
    |>.snoc (.silent (.noTime rfl rfl))
    |>.snoc (.silent (.tryRecv rfl rfl rfl))
    |>.snoc (.silent (.written rfl))
  have hlive : (liveThenDelete 0).way = .live 1 := rfl
  exact ⟨_, _, hrun, rfl, lifecycle_barrier hrun Nat.zero_lt_one hlive rfl⟩

end VangersSrv
