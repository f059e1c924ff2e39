/-
The writer sleeps only when there is nothing to write.

A server time and a live update are stored first and announced after, each by a permit of its
own, and the writer looks for them before it waits.  So what is stored behind its back leaves a
permit, and a writer that waits with no branch of `select!` ready has left nothing behind.
-/
import VangersSrv.Client.Barrier

namespace VangersSrv

/-! ### Sleep -/

/-- The writer waits in `select!`, and none of its branches is ready. -/
structure Outbound.Asleep (o : Outbound) : Prop where
  waits : o.writer = .wait
  notClosed : o.rxServerClosed = false
  time : o.timeNotified = false
  fifo : o.fifo = []
  senders : o.dropped = false ∨ o.tasks ≠ []
  updates : o.updatesNotified = false

/-- A later call sends something in the place of a packet, or ends its object's life. -/
def Superseded (calls : Nat → Call) (k n : Nat) : Prop :=
  ∃ j, k < j ∧ j < n ∧ ((calls j).way = (calls k).way ∨
    ∃ id, (calls k).way = .live id ∧ (calls j).ends = some id)

/-! ### The slots -/

/-- What waits in the slot that a way leads to. -/
def Outbound.slot (o : Outbound) : Way → Option Bytes
  | .time => o.latestServerTime
  | .live id => o.latestObjectUpdates.packets.lookup id
  | .queue => none

/-- An operation that stores a packet in the slot of its way. -/
def Op.stores : Op → Option (Way × Bytes)
  | .replaceTime data => some (.time, data)
  | .replaceUpdate id data => some (.live id, data)
  | _ => none

/-- An operation that changes what waits in a slot. -/
def Op.Overwrites (op : Op) (way : Way) : Prop :=
  (∃ data, op.stores = some (way, data)) ∨ ∃ id, op = .removeUpdate id ∧ way = .live id

/-- Every pending update has its place in the order. -/
def LatestObjectUpdates.Listed (l : LatestObjectUpdates) : Prop := ∀ id ∈ l.packets, id ∈ l.order

namespace LatestObjectUpdates.Listed

variable {l l' : LatestObjectUpdates} {id : I32} {data : Bytes}

theorem replace (h : Listed l) : Listed (l.replace id data) := by
  intro k hk
  have hmem : k ∈ l.packets.insert id data := hk
  show k ∈ if id ∈ l.packets then l.order else l.order ++ [id]
  rcases AList.mem_insert l.packets |>.mp hmem with rfl | hold
  · split
    · rename_i hid
      exact h k hid
    · simp
  · split
    · exact h k hold
    · exact List.mem_append_left _ (h k hold)

theorem remove (h : Listed l) : Listed (l.remove id) := by
  intro k hk
  have hmem : k ∈ l.packets.erase id := hk
  obtain ⟨hne, hold⟩ := AList.mem_erase.mp hmem
  show k ∈ if id ∈ l.packets then l.order.filter (· ≠ id) else l.order
  split
  · simpa using ⟨h k hold, hne⟩
  · exact h k hold

/-- The updates that are left are still listed, and none is left when none is found. -/
theorem takeNext (h : Listed l) : Listed l.takeNext.2 ∧ (l.takeNext.1 = none → ∀ id, id ∉ l.packets) := by
  obtain ⟨order, packets⟩ := l
  unfold LatestObjectUpdates.takeNext
  dsimp only
  induction order with
  | nil =>
      have hnone : ∀ id, id ∉ packets := fun id hid => by
        have hlisted := h id hid
        cases hlisted
      exact ⟨fun id hid => absurd hid (hnone id), fun _ => hnone⟩
  | cons k rest ih =>
      unfold takeFrom
      cases hfound : packets.lookup k with
      | some data =>
          refine ⟨fun id hid => ?_, fun hnone => by cases hnone⟩
          have hmem : id ∈ packets.erase k := hid
          obtain ⟨hne, hold⟩ := AList.mem_erase.mp hmem
          rcases List.mem_cons.mp (h id hold) with rfl | hrest
          · exact absurd rfl hne
          · exact hrest
      | none =>
          refine ih fun id hid => ?_
          rcases List.mem_cons.mp (h id hid) with rfl | hrest
          · exact absurd hid (AList.lookup_eq_none.mp hfound)
          · exact hrest

end LatestObjectUpdates.Listed

section

variable {calls : Nat → Call} {m m' : Numbered} {o o' : Outbound} {id : I32} {data : Bytes}
  {way : Way} {k : Nat} {tr : List (Option Call)}

/-! ### Permits -/

/-- Of two operations the second is left when the first is done. -/
theorem second_left {before rest : List Op} {op first second : Op}
    (h : before ++ op :: rest = [first, second]) (hne : op ≠ second) : second ∈ rest := by
  rcases List.append_eq_cons_iff.mp h with ⟨-, hrest⟩ | ⟨before', -, hlater⟩
  · obtain ⟨-, hsecond⟩ := List.cons.inj hrest
    simp [hsecond]
  · have hlast : op ∈ [second] := by
      rw [hlater]
      simp
    exact absurd (List.mem_singleton.mp hlast) hne

/-- What is stored is announced in the same call. -/
theorem Numbered.Placed.announces (h : m.Placed calls) {op : Op} {rest : List Op}
    (hops : m.out.ops = op :: rest) :
    (∀ data, op = .replaceTime data → .notifyTime ∈ rest) ∧
      ∀ id data, op = .replaceUpdate id data → .notifyUpdates ∈ rest := by
  have hlast : op ∈ m.out.ops := by simp [hops]
  obtain ⟨n, -, before, hbefore⟩ := h.last hlast
  rw [hops, (calls n).ops_eq] at hbefore
  have hmem : op ∈ before ++ op :: rest := by simp
  split at hbefore
  · refine ⟨fun data hop => second_left hbefore (by simp [hop]), fun id data hop => ?_⟩
    rw [hbefore] at hmem
    simp [hop] at hmem
  · refine ⟨fun data hop => ?_, fun id data hop => second_left hbefore (by simp [hop])⟩
    rw [hbefore] at hmem
    simp [hop] at hmem
  · rw [hbefore] at hmem
    refine ⟨fun data hop => ?_, fun id data hop => ?_⟩
    · simp [hop] at hmem
    · simp [hop] at hmem

/-- What waits is seen before the writer sleeps, or is announced. -/
structure Announced (o : Outbound) : Prop where
  listed : o.latestObjectUpdates.Listed
  time : o.latestServerTime ≠ none → o.writer = .fifo ∨ o.writer = .slot ∨ o.writer = .wait →
    o.timeNotified = true ∨ .notifyTime ∈ o.ops
  updates : o.latestObjectUpdates.packets ≠ ∅ → o.writer = .wait →
    o.updatesNotified = true ∨ .notifyUpdates ∈ o.ops
  /-- A writer that found the queue closed waits only after it found the slot empty. -/
  done : o.writer = .wait → o.rxServerClosed = true → o.latestObjectUpdates.packets = ∅

namespace Announced

theorem new : Announced Outbound.new where
  listed := fun id hid => by cases hid
  time := fun hne => absurd rfl hne
  updates := fun hne => absurd rfl hne
  done := fun hw => by cases hw

/-- A permit that is still to be given is so after another operation. -/
theorem still {given : Bool} {notify op : Op} {ops rest : List Op} (hops : ops = op :: rest)
    (hop : op ≠ notify) (h : given = true ∨ notify ∈ ops) : given = true ∨ notify ∈ rest := by
  rcases h with hgiven | hlater
  · exact Or.inl hgiven
  · rw [hops] at hlater
    rcases List.mem_cons.mp hlater with heq | hrest
    · exact absurd heq.symm hop
    · exact Or.inr hrest

theorem perform (h : Announced m.out) (hplaced : m.Placed calls) {op : Op} {rest : List Op}
    (hops : m.out.ops = op :: rest) : Announced ({ m.out with ops := rest }.perform op) := by
  obtain ⟨-, hopen⟩ := hplaced.orderly.alive hops
  obtain ⟨htime, hupdates⟩ := hplaced.announces hops
  have hclosed : m.out.rxServerClosed ≠ true := by simp [hopen]
  cases op with
  | replaceTime data =>
      exact { listed := h.listed
              time := fun _ _ => Or.inr (htime data rfl)
              updates := fun hne hw => still hops (by simp) (h.updates hne hw)
              done := fun _ hc => absurd hc hclosed }
  | notifyTime =>
      exact { listed := h.listed
              time := fun _ _ => Or.inl rfl
              updates := fun hne hw => still hops (by simp) (h.updates hne hw)
              done := fun _ hc => absurd hc hclosed }
  | removeUpdate id =>
      refine { listed := h.listed.remove
               time := fun hne hw => still hops (by simp) (h.time hne hw)
               updates := fun hne hw => still hops (by simp) (h.updates (fun hempty => hne ?_) hw)
               done := fun _ hc => absurd hc hclosed }
      show m.out.latestObjectUpdates.packets.erase id = ∅
      rw [hempty]
      rfl
  | replaceUpdate id data =>
      exact { listed := h.listed.replace
              time := fun hne hw => still hops (by simp) (h.time hne hw)
              updates := fun _ _ => Or.inr (hupdates id data rfl)
              done := fun _ hc => absurd hc hclosed }
  | notifyUpdates =>
      exact { listed := h.listed
              time := fun hne hw => still hops (by simp) (h.time hne hw)
              updates := fun _ _ => Or.inl rfl
              done := fun _ hc => absurd hc hclosed }
  | trySend data =>
      have hpopped : Announced { m.out with ops := rest } :=
        { listed := h.listed
          time := fun hne hw => still hops (by simp) (h.time hne hw)
          updates := fun hne hw => still hops (by simp) (h.updates hne hw)
          done := fun _ hc => absurd hc hclosed }
      rcases Outbound.perform_trySend { m.out with ops := rest } data with
        ⟨_, heq⟩ | ⟨_, _, heq⟩ | ⟨_, _, heq⟩
      · rw [heq]
        exact hpopped
      · rw [heq]
        exact { hpopped with }
      · rw [heq]
        exact { hpopped with }

/-- The writer goes to a place from which it looks for everything before it sleeps. -/
theorem look (h : Announced o) (hupdates : o'.latestObjectUpdates = o.latestObjectUpdates)
    (hwriter : o'.writer ≠ .fifo ∧ o'.writer ≠ .slot ∧ o'.writer ≠ .wait) : Announced o' where
  listed := by rw [hupdates]; exact h.listed
  time := fun _ hw => by
    rcases hw with hw | hw | hw
    · exact absurd hw hwriter.1
    · exact absurd hw hwriter.2.1
    · exact absurd hw hwriter.2.2
  updates := fun _ hw => absurd hw hwriter.2.2
  done := fun hw => absurd hw hwriter.2.2

/-- The writer goes from the queue to the slot. -/
theorem toSlot (h : Announced o) (hw : o.writer = .fifo) (closed : Bool) :
    Announced { o with writer := .slot, rxServerClosed := closed } where
  listed := h.listed
  time := fun hne _ => h.time hne (Or.inl hw)
  updates := fun _ hw' => by cases hw'
  done := fun hw' => by cases hw'

theorem silent (h : Announced m.out) (hplaced : m.Placed calls)
    (hstep : OutboundStep m.out none o) : Announced o := by
  cases hstep with
  | op hops => exact h.perform hplaced hops
  | drop _ => exact { h with }
  | claim _ _ _ => exact { h with }
  | push _ _ => exact { h with }
  | failed _ _ => exact { h with }
  | authenticated _ => exact h.look rfl (by simp)
  | refused _ => exact h.look rfl (by simp)
  | takeTime _ _ => exact h.look rfl (by simp)
  | noTime _ htime =>
      exact { listed := h.listed
              time := fun hne => absurd htime hne
              updates := fun _ hw => by cases hw
              done := fun hw => by cases hw }
  | tryRecv _ _ _ => exact h.look rfl (by simp)
  | empty hw _ _ _ => exact { h.toSlot hw m.out.rxServerClosed with }
  | disconnected hw _ _ _ _ => exact h.toSlot hw true
  | skipFifo hw _ => exact { h.toSlot hw m.out.rxServerClosed with }
  | @takeUpdate data l _ htake =>
      have hlisted := h.listed.takeNext.1
      rw [htake] at hlisted
      exact { listed := hlisted
              time := fun _ hw => by rcases hw with hw | hw | hw <;> cases hw
              updates := fun _ hw => by cases hw
              done := fun hw => by cases hw }
  | @noUpdate l hw htake =>
      obtain ⟨hlisted, hnone⟩ := h.listed.takeNext
      rw [htake] at hlisted hnone
      have hl := LatestObjectUpdates.takeNext_none htake
      have hempty : l.packets = ∅ := by
        rw [hl]
        exact AList.eq_empty_of_notMem (hnone rfl)
      exact { listed := hlisted
              time := fun hne _ => h.time hne (Or.inr (Or.inl hw))
              updates := fun hne => absurd hempty hne
              done := fun _ _ => hempty }
  | finished _ _ => exact h.look rfl (by simp)
  | wakeTime _ _ _ => exact h.look rfl (by simp)
  | recv _ _ _ => exact h.look rfl (by simp)
  | recvNone _ _ _ _ _ => exact h.look rfl (by simp)
  | wakeUpdates _ _ _ => exact h.look rfl (by simp)
  | written _ => exact h.look rfl (by simp)
  | writeError _ => exact h.look rfl (by simp)

/-- A writer that sleeps on something stored is about to be told. -/
theorem asleep (h : Announced o) (hasleep : o.Asleep) :
    (o.latestServerTime ≠ none → .notifyTime ∈ o.ops) ∧
      (o.latestObjectUpdates.packets ≠ ∅ → .notifyUpdates ∈ o.ops) := by
  refine ⟨fun hne => ?_, fun hne => ?_⟩
  · rcases h.time hne (Or.inr (Or.inr hasleep.waits)) with hgiven | hlater
    · rw [hasleep.time] at hgiven
      cases hgiven
    · exact hlater
  · rcases h.updates hne hasleep.waits with hgiven | hlater
    · rw [hasleep.updates] at hgiven
      cases hgiven
    · exact hlater

/-- Between two calls a writer that sleeps has nothing to write. -/
theorem asleep_idle (h : Announced o) (hasleep : o.Asleep) (hidle : o.ops = []) :
    o.latestServerTime = none ∧ o.latestObjectUpdates.packets = ∅ := by
  obtain ⟨htime, hupdates⟩ := h.asleep hasleep
  rw [hidle] at htime hupdates
  constructor
  · by_contra hne
    cases htime hne
  · by_contra hne
    cases hupdates hne

end Announced

theorem Outbound.Alike.ops_nil {r : Bytes → Bytes → Prop} (h : Outbound.Alike r o o')
    (hidle : o.ops = []) : o'.ops = [] := by
  have hops := h.ops
  rw [hidle] at hops
  exact List.forall₂_nil_left_iff.mp hops

/-- Ways out that differ in their bytes only sleep alike. -/
theorem Outbound.Alike.asleep {r : Bytes → Bytes → Prop} (h : Outbound.Alike r o o') (hasleep : o.Asleep) :
    o'.Asleep where
  waits := (h.writer.eq_of_idle (by rw [hasleep.waits]; rfl)).trans hasleep.waits
  notClosed := h.rxServerClosed.symm.trans hasleep.notClosed
  time := h.timeNotified.symm.trans hasleep.time
  fifo := h.fifo_nil hasleep.fifo
  senders := by
    refine hasleep.senders.imp (h.dropped.symm.trans ·) fun hsome hnone => hsome ?_
    exact h.symm.tasks_nil hnone
  updates := h.updatesNotified.symm.trans hasleep.updates

/-- A slot is empty when nothing waits in either store. -/
theorem Outbound.slot_eq_none (htime : o.latestServerTime = none)
    (hupdates : o.latestObjectUpdates.packets = ∅) (way : Way) : o.slot way = none := by
  cases way with
  | time => exact htime
  | live id =>
      show o.latestObjectUpdates.packets.lookup id = none
      rw [hupdates, AList.lookup_empty]
  | queue => rfl

/-- A writer that waits leaves the loop only on a closed queue. -/
theorem OutboundStep.closed_of_stopped (hstep : OutboundStep o none o') (hw : o.writer = .wait)
    (hstopped : o'.writer = .stopped) : o.rxServerClosed = true := by
  cases hstep with
  | finished _ hclosed => exact hclosed
  | op _ =>
      rw [Outbound.perform_writer] at hstopped
      cases hw.symm.trans hstopped
  | refused hw' => cases hw.symm.trans hw'
  | writeError hw' => cases hw.symm.trans hw'
  | drop _ => cases hw.symm.trans hstopped
  | claim _ _ _ => cases hw.symm.trans hstopped
  | push _ _ => cases hw.symm.trans hstopped
  | failed _ _ => cases hw.symm.trans hstopped
  | _ => cases hstopped

/-! ### The newest packet of a slot -/

/-- What an operation does to a slot. -/
theorem Outbound.perform_slot (o : Outbound) (op : Op) (hway : way ≠ .queue) :
    (op.Overwrites way ∧ ∀ d, op.stores = some (way, d) → (o.perform op).slot way = some d) ∨
      (o.perform op).slot way = o.slot way := by
  cases op with
  | replaceTime data =>
      cases way with
      | time =>
          refine Or.inl ⟨Or.inl ⟨data, rfl⟩, fun d hd => ?_⟩
          simp only [Op.stores, Option.some.injEq, Prod.mk.injEq, true_and] at hd
          rw [← hd]
          rfl
      | live id => exact Or.inr rfl
      | queue => exact absurd rfl hway
  | notifyTime => exact Or.inr rfl
  | removeUpdate k =>
      cases way with
      | time => exact Or.inr rfl
      | live id =>
          by_cases hid : id = k
          · subst hid
            exact Or.inl ⟨Or.inr ⟨id, rfl, rfl⟩, fun d hd => by cases hd⟩
          · refine Or.inr ?_
            show (o.latestObjectUpdates.packets.erase k).lookup id = _
            exact AList.lookup_erase_ne hid
      | queue => exact absurd rfl hway
  | replaceUpdate k data =>
      cases way with
      | time => exact Or.inr rfl
      | live id =>
          by_cases hid : id = k
          · subst hid
            refine Or.inl ⟨Or.inl ⟨data, rfl⟩, fun d hd => ?_⟩
            simp only [Op.stores, Option.some.injEq, Prod.mk.injEq, true_and] at hd
            rw [← hd]
            exact AList.lookup_insert _
          · refine Or.inr ?_
            show (o.latestObjectUpdates.packets.insert k data).lookup id = _
            exact AList.lookup_insert_ne hid
      | queue => exact absurd rfl hway
  | notifyUpdates => exact Or.inr rfl
  | trySend data =>
      refine Or.inr ?_
      rcases o.perform_trySend data with ⟨_, heq⟩ | ⟨_, _, heq⟩ | ⟨_, _, heq⟩
      · rw [heq]
      · rw [heq]
        rfl
      · rw [heq]
        rfl

/-- What waits in a slot is left there, taken, or overwritten by an operation of the call. -/
theorem OutboundStep.slot_left (hstep : OutboundStep o none o') (hslot : o.slot way = some data) :
    o'.slot way = some data ∨ o'.taken = o.taken ++ [data] ∨
      ∃ op ∈ o.ops, op.Overwrites way ∧ ∀ d, op.stores = some (way, d) → o'.slot way = some d := by
  have hway : way ≠ .queue := by
    rintro rfl
    cases hslot
  have hidle : ∀ {w : Writer}, o.writer = w → w.hand = [] → o.writer.hand = [] := by
    intro w hw hhand
    rw [hw, hhand]
  cases hstep with
  | @op op rest hops =>
      rcases Outbound.perform_slot { o with ops := rest } op hway with hover | hsame
      · exact Or.inr (Or.inr ⟨op, by simp [hops], hover⟩)
      · exact Or.inl (hsame.trans hslot)
  | @takeTime d hw htime =>
      cases way with
      | time =>
          obtain rfl : d = data := Option.some.inj (htime.symm.trans hslot)
          exact Or.inr (Or.inl (taken_of_take (hidle hw rfl) rfl rfl))
      | live id => exact Or.inl hslot
      | queue => exact absurd rfl hway
  | @takeUpdate d l hw htake =>
      cases way with
      | time => exact Or.inl hslot
      | live id =>
          obtain ⟨k, hfound, hl⟩ := LatestObjectUpdates.takeNext_some htake
          by_cases hid : id = k
          · subst hid
            obtain rfl : d = data := Option.some.inj (hfound.symm.trans hslot)
            exact Or.inr (Or.inl (taken_of_take (hidle hw rfl) rfl rfl))
          · refine Or.inl ?_
            show l.packets.lookup id = some data
            rw [hl, AList.lookup_erase_ne hid]
            exact hslot
      | queue => exact absurd rfl hway
  | @noUpdate l hw htake =>
      cases way with
      | time => exact Or.inl hslot
      | live id =>
          refine Or.inl ?_
          show l.packets.lookup id = some data
          rw [LatestObjectUpdates.takeNext_none htake]
          exact hslot
      | queue => exact absurd rfl hway
  | _ => exact Or.inl hslot

/-- An operation is still to be made, or it was made by the step. -/
theorem OutboundStep.op_made (hstep : OutboundStep o none o') {op : Op} (hop : op ∈ o.ops) :
    op ∈ o'.ops ∨ ∃ rest, o' = { o with ops := rest }.perform op := by
  cases hstep with
  | @op first rest hops =>
      rw [hops] at hop
      rcases List.mem_cons.mp hop with rfl | hlater
      · exact Or.inr ⟨rest, rfl⟩
      · refine Or.inl ?_
        rw [Outbound.perform_ops]
        exact hlater
  | _ => exact Or.inl hop

/-- A writer that stopped does not start again. -/
theorem OutboundStep.stays_stopped (hstep : OutboundStep o none o') (hw : o.writer = .stopped) :
    o'.writer = .stopped := by
  cases hstep with
  | op _ =>
      rw [Outbound.perform_writer]
      exact hw
  | drop _ => exact hw
  | claim _ _ _ => exact hw
  | push _ _ => exact hw
  | failed _ _ => exact hw
  | authenticated hw' => cases hw.symm.trans hw'
  | refused _ => rfl
  | takeTime hw' _ => cases hw.symm.trans hw'
  | noTime hw' _ => cases hw.symm.trans hw'
  | tryRecv hw' _ _ => cases hw.symm.trans hw'
  | empty hw' _ _ _ => cases hw.symm.trans hw'
  | disconnected hw' _ _ _ _ => cases hw.symm.trans hw'
  | skipFifo hw' _ => cases hw.symm.trans hw'
  | takeUpdate hw' _ => cases hw.symm.trans hw'
  | noUpdate hw' _ => cases hw.symm.trans hw'
  | finished _ _ => rfl
  | wakeTime hw' _ _ => cases hw.symm.trans hw'
  | recv hw' _ _ => cases hw.symm.trans hw'
  | recvNone hw' _ _ _ _ => cases hw.symm.trans hw'
  | wakeUpdates hw' _ _ => cases hw.symm.trans hw'
  | written hw' => cases hw.symm.trans hw'
  | writeError _ => rfl

/-- A packet for a slot that nothing supersedes is in its call, in its slot, or taken. -/
def KeptNewest (calls : Nat → Call) (k : Nat) (m : Numbered) : Prop :=
  m.next ≤ k ∨ Superseded calls k m.next ∨ m.out.writer = .stopped ∨
    k ∈ Numbered.numbers m.out.taken ∨
    (∃ data, m.out.slot (calls k).way = some data ∧ data.length = k) ∨
    ∃ op ∈ m.out.ops, ∃ data, op.stores = some ((calls k).way, data) ∧ data.length = k

theorem Superseded.mono {n n' : Nat} (h : Superseded calls k n) (hle : n ≤ n') :
    Superseded calls k n' := by
  obtain ⟨j, hkj, hjn, hj⟩ := h
  exact ⟨j, hkj, by omega, hj⟩

/-- What overwrites a packet in its slot is itself or comes later. -/
theorem superseded_of_overwrites (hplaced : m.Placed calls) (hk : (calls k).way ≠ .queue)
    (hlt : k < m.next) {op : Op} (hop : op ∈ m.out.ops) (hover : op.Overwrites (calls k).way) :
    Superseded calls k m.next ∨
      ∃ data, op.stores = some ((calls k).way, data) ∧ data.length = k := by
  rcases hover with ⟨data, hstores⟩ | ⟨id, rfl, hlive⟩
  · -- the packet of the last call, on the same way
    have hlast : m.next = data.length + 1 ∧ (calls data.length).way = (calls k).way := by
      cases op with
      | replaceTime d =>
          obtain ⟨hway, hdata⟩ := Prod.mk.inj (Option.some.inj hstores)
          subst hdata
          rw [← hway]
          exact hplaced.of_replaceTime hop
      | replaceUpdate id d =>
          obtain ⟨hway, hdata⟩ := Prod.mk.inj (Option.some.inj hstores)
          subst hdata
          rw [← hway]
          exact hplaced.of_replaceUpdate hop
      | _ => cases hstores
    by_cases hsame : data.length = k
    · exact Or.inr ⟨data, hstores, hsame⟩
    · exact Or.inl ⟨data.length, by omega, by omega, Or.inl hlast.2⟩
  · obtain ⟨n, hnext, hway, hends⟩ := hplaced.of_removeUpdate hop
    have hne : n ≠ k := by
      rintro rfl
      exact hk hway
    exact Or.inl ⟨n, by omega, by omega, Or.inr ⟨id, hlive, hends⟩⟩

theorem KeptNewest.silent (h : KeptNewest calls k m) (hplaced : m.Placed calls)
    (hk : (calls k).way ≠ .queue) (hstep : OutboundStep m.out none o) :
    KeptNewest calls k { m with out := o } := by
  by_cases hlt : k < m.next
  swap
  · exact Or.inl (Nat.le_of_not_lt hlt)
  rcases h with hle | hsuper | hstopped | htaken | ⟨data, hslot, hdata⟩ | ⟨op, hop, data, hstores, hdata⟩
  · omega
  · exact Or.inr (Or.inl hsuper)
  · exact Or.inr (Or.inr (Or.inl (hstep.stays_stopped hstopped)))
  · -- what was taken is on the wire, in the writer's hands, or lost with a writer that stopped
    cases hstep.takenMove with
    | kept heq =>
        refine Or.inr (Or.inr (Or.inr (Or.inl ?_)))
        rw [heq]
        exact htaken
    | takes heq _ _ =>
        refine Or.inr (Or.inr (Or.inr (Or.inl ?_)))
        rw [heq, Numbered.numbers_append]
        exact List.mem_append_left _ htaken
    | lost _ hstopped => exact Or.inr (Or.inr (Or.inl hstopped))
  · rcases hstep.slot_left hslot with hleft | heq | ⟨op, hop, hover, hnew⟩
    · exact Or.inr (Or.inr (Or.inr (Or.inr (Or.inl ⟨data, hleft, hdata⟩))))
    · refine Or.inr (Or.inr (Or.inr (Or.inl ?_)))
      rw [heq, Numbered.numbers_append, ← hdata]
      simp
    · rcases superseded_of_overwrites hplaced hk hlt hop hover with hsuper | ⟨d, hstores, hd⟩
      · exact Or.inr (Or.inl hsuper)
      · exact Or.inr (Or.inr (Or.inr (Or.inr (Or.inl ⟨d, hnew d hstores, hd⟩))))
  · rcases hstep.op_made hop with hlater | ⟨rest, rfl⟩
    · exact Or.inr (Or.inr (Or.inr (Or.inr (Or.inr ⟨op, hlater, data, hstores, hdata⟩))))
    · refine Or.inr (Or.inr (Or.inr (Or.inr (Or.inl ⟨data, ?_, hdata⟩))))
      rcases Outbound.perform_slot { m.out with ops := rest } op hk with ⟨-, hnew⟩ | hsame
      · exact hnew data hstores
      · cases op with
        | replaceTime d =>
            obtain ⟨hway, rfl⟩ := Prod.mk.inj (Option.some.inj hstores)
            rw [← hway]
            rfl
        | replaceUpdate id d =>
            obtain ⟨hway, rfl⟩ := Prod.mk.inj (Option.some.inj hstores)
            rw [← hway]
            exact AList.lookup_insert _
        | _ => cases hstores

theorem KeptNewest.step (h : KeptNewest calls k m) (hplaced : m.Placed calls)
    (hk : (calls k).way ≠ .queue) {e : Option Call} (hstep : NumberedStep calls m e m') :
    KeptNewest calls k m' := by
  cases hstep with
  | call hidle _ _ =>
      rcases h with hle | hsuper | hstopped | htaken | hslot | ⟨op, hop, -⟩
      · rcases Nat.eq_or_lt_of_le hle with rfl | hlt
        · -- the packet is passed now
          refine Or.inr (Or.inr (Or.inr (Or.inr (Or.inr ?_))))
          show ∃ op ∈ (calls m.next).ops (numeral m.next), ∃ data,
            op.stores = some ((calls m.next).way, data) ∧ data.length = m.next
          rw [(calls m.next).ops_eq]
          split
          · rename_i hway
            exact ⟨_, List.mem_cons_self, _, by rw [hway]; rfl, numeral_length _⟩
          · rename_i hway
            exact ⟨_, List.mem_cons_self, _, by rw [hway]; rfl, numeral_length _⟩
          · rename_i hway
            exact absurd hway hk
        · exact Or.inl hlt
      · exact Or.inr (Or.inl (hsuper.mono (Nat.le_succ _)))
      · exact Or.inr (Or.inr (Or.inl hstopped))
      · exact Or.inr (Or.inr (Or.inr (Or.inl htaken)))
      · exact Or.inr (Or.inr (Or.inr (Or.inr (Or.inl hslot))))
      · rw [hidle] at hop
        cases hop
  | silent hstep => exact h.silent hplaced hk hstep

/-- What nothing supersedes is on the wire when the writer sleeps between two calls. -/
theorem KeptNewest.written (h : KeptNewest calls k m) (hasleep : m.out.Asleep)
    (hidle : m.out.ops = []) (hempty : m.out.slot (calls k).way = none) (hlt : k < m.next)
    (hnewest : ¬ Superseded calls k m.next) : k ∈ m.written := by
  have htaken : m.out.taken = m.out.wire := by
    simp [Outbound.taken, hasleep.waits, Writer.hand]
  rcases h with hle | hsuper | hstopped | htook | ⟨data, hslot, -⟩ | ⟨op, hop, -⟩
  · omega
  · exact absurd hsuper hnewest
  · rw [hasleep.waits] at hstopped
    cases hstopped
  · rw [htaken] at htook
    exact htook
  · rw [hempty] at hslot
    cases hslot
  · rw [hidle] at hop
    cases hop

/-! ### Nothing is left behind -/

theorem Announced.run (h : Transition.Run (NumberedStep calls) Numbered.new tr m) :
    m.Placed calls ∧ Announced m.out := by
  refine h.invariant (P := fun m => m.Placed calls ∧ Announced m.out) ⟨.new, .new⟩ ?_
  intro a e b hstep hbefore
  refine ⟨hbefore.1.step hstep, ?_⟩
  cases hstep with
  | call hidle _ _ =>
      refine { hbefore.2 with time := fun hne hw => ?_, updates := fun hne hw => ?_ }
      · rcases hbefore.2.time hne hw with hgiven | hlater
        · exact Or.inl hgiven
        · rw [hidle] at hlater
          cases hlater
      · rcases hbefore.2.updates hne hw with hgiven | hlater
        · exact Or.inl hgiven
        · rw [hidle] at hlater
          cases hlater
  | silent hstep => exact hbefore.2.silent hbefore.1 hstep

/-- Between two calls a writer that sleeps has nothing to write. -/
theorem Outbound.Asleep.idle (hasleep : o.Asleep) (h : Transition.Run OutboundStep Outbound.new tr o)
    (hidle : o.ops = []) : o.latestServerTime = none ∧ o.latestObjectUpdates.packets = ∅ := by
  obtain ⟨calls, m, hrun, hshows⟩ := Numbered.exists_numbered h
  obtain ⟨htime, hupdates⟩ :=
    (Announced.run hrun).2.asleep_idle (hshows.asleep hasleep) (hshows.ops_nil hidle)
  constructor
  · rw [← Option.isNone_iff_eq_none, ← Option.not_isSome, rel_isSome hshows.latestServerTime, htime]
    rfl
  · refine AList.eq_empty_of_notMem fun id hid => ?_
    rw [hshows.latestObjectUpdates.mem_iff, hupdates] at hid
    exact AList.notMem_empty id hid

theorem KeptNewest.run (hk : (calls k).way ≠ .queue)
    (h : Transition.Run (NumberedStep calls) Numbered.new tr m) : KeptNewest calls k m := by
  refine (h.invariant (P := fun m => m.Placed calls ∧ KeptNewest calls k m)
    ⟨.new, Or.inl (Nat.zero_le k)⟩ ?_).2
  intro a e b hstep hbefore
  exact ⟨hbefore.1.step hstep, hbefore.2.step hbefore.1 hk hstep⟩

/-- **The writer never sleeps on pending work, and leaves none behind when it is done.**  When it
waits and no branch of `select!` is ready, nothing waits but what the call being made is about
to announce; between two calls nothing waits at all, and every server time and live update that
nothing supersedes is on the wire.  When it leaves the loop without an error, the queue and the
pending updates are empty. -/
theorem writer_wakes {calls : Nat → Call} {m : Numbered} {tr : List (Option Call)}
    (h : Transition.Run (NumberedStep calls) Numbered.new tr m) :
    (m.out.Asleep → m.out.fifo = [] ∧
      (m.out.latestServerTime ≠ none → .notifyTime ∈ m.out.ops) ∧
      (m.out.latestObjectUpdates.packets ≠ ∅ → .notifyUpdates ∈ m.out.ops)) ∧
    (m.out.Asleep → m.out.ops = [] → m.out.latestServerTime = none ∧ m.out.fifo = [] ∧
      m.out.latestObjectUpdates.packets = ∅ ∧
      ∀ k < m.next, (calls k).way ≠ .queue → ¬ Superseded calls k m.next → k ∈ m.written) ∧
    ∀ m', NumberedStep calls m none m' → m.out.writer = .wait → m'.out.writer = .stopped →
      m.out.fifo = [] ∧ m.out.latestObjectUpdates.packets = ∅ := by
  obtain ⟨hplaced, hannounced⟩ := Announced.run h
  refine ⟨fun hasleep => ⟨hasleep.fifo, hannounced.asleep hasleep⟩, fun hasleep hidle => ?_, ?_⟩
  · obtain ⟨htime, hupdates⟩ := hannounced.asleep_idle hasleep hidle
    refine ⟨htime, hasleep.fifo, hupdates, fun k hk hway hnewest => ?_⟩
    have hempty := Outbound.slot_eq_none htime hupdates (calls k).way
    exact (KeptNewest.run hway h).written hasleep hidle hempty hk hnewest
  · intro m' hstep hw hstopped
    cases hstep with
    | silent hstep =>
        have hclosed := hstep.closed_of_stopped hw hstopped
        exact ⟨(hplaced.orderly.closed hclosed).1, hannounced.done hw hclosed⟩

end

/-- A server time. -/
def serverTime : Packet :=
  { eventSize := 5, action := .serverTime, realAction := Action.serverTime.toU8
    data := [1, 0, 0, 0] }

/-- A server time is stored behind the writer's back, and wakes it. -/
theorem writer_wakes_time :
    ∃ tr m, Transition.Run (NumberedStep fun _ => .send serverTime) Numbered.new tr m ∧
      m.out.Asleep ∧ m.out.latestServerTime = none ∧ 0 ∈ m.written := by
  have hrun := (Transition.Run.nil :
      Transition.Run (NumberedStep fun _ => .send serverTime) Numbered.new [] Numbered.new)
    |>.snoc (.silent (.authenticated rfl))
    |>.snoc (.silent (.noTime rfl rfl))
    |>.snoc (.call rfl rfl rfl)
    |>.snoc (.silent (.op rfl))
    |>.snoc (.silent (.op rfl))
    |>.snoc (.silent (.empty rfl rfl rfl (.inl rfl)))
    |>.snoc (.silent (.noUpdate rfl rfl))
    |>.snoc (.silent (.wakeTime rfl rfl rfl))
    |>.snoc (.silent (.takeTime rfl rfl))
    |>.snoc (.silent (.written rfl))
    |>.snoc (.silent (.noTime rfl rfl))
    |>.snoc (.silent (.empty rfl rfl rfl (.inl rfl)))
    |>.snoc (.silent (.noUpdate rfl rfl))
  obtain ⟨tr, m, hrun, hasleep, hidle, hnext⟩ : ∃ tr m,
      Transition.Run (NumberedStep fun _ => .send serverTime) Numbered.new tr m ∧
        m.out.Asleep ∧ m.out.ops = [] ∧ m.next = 1 :=
    ⟨_, _, hrun, ⟨rfl, rfl, rfl, rfl, Or.inl rfl, rfl⟩, rfl, rfl⟩
  have hnewest : ¬ Superseded (fun _ => .send serverTime) 0 m.next := by
    rintro ⟨j, hlow, hhigh, -⟩
    omega
  obtain ⟨htime, -, -, hwritten⟩ := (writer_wakes hrun).2.1 hasleep hidle
  exact ⟨tr, m, hrun, hasleep, htime, hwritten 0 (by omega) (by decide) hnewest⟩

end VangersSrv
