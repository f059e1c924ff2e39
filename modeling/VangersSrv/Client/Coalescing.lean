/-
Coalescing cannot be seen.

The way out drops and reorders: a live update takes the place of an older one, the end of an
object's life throws its pending update away, and the writer takes the queue before the slot.
None of this shows in what a client makes of its packets as long as no two packets change
places that touch the same object.  `Call.FindsPlace` is what a call has to find for that, and
then the packets on the wire, followed by what is on its way, do to a replica what all packets
that were passed would do one after the other.
-/
import VangersSrv.Client.Wakeups
import VangersSrv.Server.Told

namespace VangersSrv

open Replica

/-! ### What packets do to a replica -/

/-- What the packet of a call does to the replica of the client that reads it. -/
def Call.write (call : Call) : Write I32 Bytes := call.packet.write

/-- What the packets of some calls do, one after the other. -/
def replayed (calls : Nat → Call) (l : List Nat) : Write I32 Bytes :=
  Write.all (l.map fun n => (calls n).write)

/-- What the pending updates do; no two of them are about one object. -/
def LatestObjectUpdates.writes (calls : Nat → Call) (l : LatestObjectUpdates) : Write I32 Bytes :=
  fun id => (l.packets.lookup id).bind fun data => (calls data.length).write id

/-- The packets that the writer has taken or will find before it looks for an update. -/
def Outbound.ahead (o : Outbound) : List Nat :=
  Numbered.numbers o.taken ++ (Numbered.numbers o.fifo ++ Numbered.numbers o.held)

/-- What is written and what is on its way, in the order in which it will be written. -/
def Outbound.effect (calls : Nat → Call) (o : Outbound) : Write I32 Bytes :=
  ((replayed calls o.ahead).andThen (o.latestObjectUpdates.writes calls)).andThen
    (replayed calls (Numbered.numbers o.called))

/-- What a call has to find: no packet in a fallback task that touches what its own does; if it
is queued, no pending update of an object it touches but the one that it removes; and if it is a
live update, no packet about its object in the queue behind the writer's back. -/
structure Call.FindsPlace (calls : Nat → Call) (o : Outbound) (call : Call) : Prop where
  tasks : ∀ data ∈ o.held, Write.Apart (calls data.length).write call.write
  pending : call.way = .queue → ∀ id, o.latestObjectUpdates.packets.lookup id ≠ none →
    call.write id = none ∨ call.ends = some id
  /-- A `HIDE_OBJECT` does not say what becomes of the object. -/
  hidden : call.packet.action = .hideObject → ∀ id, call.ends = some id →
    o.latestObjectUpdates.packets.lookup id = none
  queue : ∀ id, call.way = .live id → o.writer = .slot →
    ∀ data ∈ o.fifo, (calls data.length).write id = none

/-- A step in which no write fails, and which finds its place if it is a call. -/
def SettledStep (calls : Nat → Call) (m : Numbered) (e : Option Call) (m' : Numbered) : Prop :=
  WholeStep calls m e m' ∧ (e.isSome → (calls m.next).FindsPlace calls m.out)

section

variable {calls : Nat → Call} {m m' : Numbered} {o o' : Outbound} {id : I32} {data : Bytes}
  {l l' : List Nat} {n : Nat} {tr : List (Option Call)}

@[simp] theorem replayed_nil : replayed calls [] = .skip := rfl

@[simp] theorem replayed_append :
    replayed calls (l ++ l') = (replayed calls l).andThen (replayed calls l') := by
  simp [replayed, Write.all_append]

@[simp] theorem replayed_singleton : replayed calls [n] = (calls n).write := by
  simp [replayed]

/-! ### The three ways -/

theorem Call.action_of_time {call : Call} (h : call.way = .time) :
    call.packet.action = .serverTime := by
  cases call with
  | send packet =>
      simp only [Call.way] at h
      split at h
      · assumption
      · cases h
  | sendRealtimeUpdate packet =>
      simp only [Call.way] at h
      split at h
      · assumption
      · split at h
        · split at h <;> cases h
        · cases h

theorem Call.action_of_live {call : Call} (h : call.way = .live id) :
    call.packet.action = .updateObject ∧ packetObjectId call.packet = some id := by
  cases call with
  | send packet =>
      simp only [Call.way] at h
      split at h <;> cases h
  | sendRealtimeUpdate packet =>
      simp only [Call.way] at h
      split at h
      · cases h
      · split at h
        · rename_i haction
          split at h
          · rename_i hid
            cases h
            exact ⟨haction, hid⟩
          · cases h
        · cases h

theorem sliceLeToI32_of_packetObjectId {packet : Packet} (h : packetObjectId packet = some id) :
    sliceLeToI32 (packet.data.take 4) = some id := by
  unfold packetObjectId at h
  split at h
  · cases h
  · exact h

/-- A server time says nothing of the objects. -/
theorem Call.write_of_time {call : Call} (h : call.way = .time) : call.write = .skip := by
  simp [Call.write, Packet.write, Call.action_of_time h]

/-- A live update writes one object. -/
theorem Call.write_of_live {call : Call} (h : call.way = .live id) :
    ∃ v, call.write = .put id v := by
  obtain ⟨haction, hid⟩ := Call.action_of_live h
  refine ⟨call.packet.data.drop 4, ?_⟩
  simp [Call.write, Packet.write, haction, sliceLeToI32_of_packetObjectId hid]

/-- The end of an object's life drops the object, unless it is only hidden. -/
theorem Call.write_of_ends {call : Call} (h : call.ends = some id)
    (hshown : call.packet.action ≠ .hideObject) : call.write id ≠ none := by
  unfold Call.ends at h
  split at h
  · rename_i haction
    have hdelete := haction.resolve_right hshown
    simp [Call.write, Packet.write, hdelete, sliceLeToI32_of_packetObjectId h, Write.drop]
  · cases h

/-- A packet may be taken past others that it is apart from. -/
theorem replayed_past (before mid after : List Nat)
    (h : ∀ i ∈ mid, Write.Apart (calls n).write (calls i).write) :
    replayed calls (before ++ n :: (mid ++ after)) = replayed calls (before ++ (mid ++ n :: after)) := by
  have hcomm : replayed calls (mid ++ [n]) = replayed calls (n :: mid) := by
    unfold replayed
    rw [List.map_append, List.map_singleton, List.map_cons]
    refine Write.all_snoc_comm fun w hw => ?_
    obtain ⟨i, hi, rfl⟩ := List.mem_map.mp hw
    exact h i hi
  rw [← List.cons_append, List.append_cons mid, replayed_append, replayed_append (l := n :: mid),
    replayed_append (l := before), replayed_append (l := mid ++ [n]), hcomm]

/-! ### The pending updates -/

namespace LatestObjectUpdates

variable {u u' : LatestObjectUpdates} {w : Write I32 Bytes}

/-- A message that touches no pending update may come before or after them. -/
theorem apart_writes (h : ∀ id, u.packets.lookup id ≠ none → w id = none) :
    Write.Apart w (u.writes calls) := by
  intro id
  cases hfound : u.packets.lookup id with
  | none => exact Or.inr (by simp [writes, hfound])
  | some data => exact Or.inl (h id (by simp [hfound]))

theorem writes_remove (id : I32) :
    (u.remove id).writes calls = fun k => if k = id then none else u.writes calls k := by
  funext k
  have hlookup : (u.remove id).packets.lookup k
      = if k = id then none else u.packets.lookup k := AList.lookup_erase' id k
  unfold writes
  rw [hlookup]
  split <;> rfl

/-- A newer update in the place of an older one does what the two would do. -/
theorem writes_replace (hway : (calls data.length).way = .live id) :
    (u.replace id data).writes calls = (u.writes calls).andThen (calls data.length).write := by
  obtain ⟨v, hv⟩ := Call.write_of_live hway
  funext k
  have hlookup : (u.replace id data).packets.lookup k
      = if k = id then some data else u.packets.lookup k := AList.lookup_insert' id k data
  show ((u.replace id data).packets.lookup k).bind _ = _
  rw [hlookup, hv]
  by_cases hk : k = id
  · subst hk
    simp [Write.andThen, Write.put, hv]
  · simp [Write.andThen, Write.put, hk, writes]

/-- The update that is taken goes past those that stay. -/
theorem writes_takeNext (hkeyed : ∀ id data, u.packets.lookup id = some data →
      (calls data.length).way = .live id) (htake : u.takeNext = (some data, u')) :
    ∃ id, u.packets.lookup id = some data ∧
      u.writes calls = (calls data.length).write.andThen (u'.writes calls) := by
  obtain ⟨id, hfound, hleft⟩ := takeNext_some htake
  obtain ⟨v, hv⟩ := Call.write_of_live (hkeyed id data hfound)
  refine ⟨id, hfound, ?_⟩
  funext k
  rw [hv]
  show (u.packets.lookup k).bind _ = (u'.writes calls k).or (Write.put id v k)
  unfold writes
  rw [hleft, AList.lookup_erase']
  by_cases hk : k = id
  · subst hk
    simp [hfound, hv, Write.put]
  · simp [hk, Write.put]

end LatestObjectUpdates

/-! ### Packets that change places are apart -/

/-- An update of the object is pending, or about to be. -/
def Outbound.Expects (o : Outbound) (id : I32) : Prop :=
  o.latestObjectUpdates.packets.lookup id ≠ none ∨ ∃ data, Op.replaceUpdate id data ∈ o.ops

/-- What is written and on its way does what was passed, and what may change places is apart. -/
structure Settled (calls : Nat → Call) (m : Numbered) : Prop where
  effect : m.out.effect calls = replayed calls (List.range m.next)
  tasksApart : m.out.held.Pairwise fun a b =>
    Write.Apart (calls a.length).write (calls b.length).write
  behindTasks : ∀ id, m.out.Expects id → ∀ data ∈ m.out.held, (calls data.length).write id = none
  behindQueue : m.out.writer = .slot → ∀ id, m.out.Expects id →
    ∀ data ∈ m.out.fifo, (calls data.length).write id = none
  sendTasks : ∀ data, .trySend data ∈ m.out.ops → ∀ data' ∈ m.out.held,
    Write.Apart (calls data'.length).write (calls data.length).write
  sendPending : ∀ data, .trySend data ∈ m.out.ops →
    ∀ id, m.out.latestObjectUpdates.packets.lookup id ≠ none →
      (calls data.length).write id = none ∨ .removeUpdate id ∈ m.out.ops
  /-- What is removed would be written over. -/
  removed : ∀ id, .removeUpdate id ∈ m.out.ops →
    m.out.latestObjectUpdates.packets.lookup id = none ∨
      ∃ data, .trySend data ∈ m.out.ops ∧ (calls data.length).write id ≠ none

/-- As long as a packet is still to be handed to the queue, it is what the call carries. -/
theorem Numbered.Placed.called_of_trySend (h : m.Placed calls) (hop : .trySend data ∈ m.out.ops) :
    m.out.called = [data] := by
  obtain ⟨n, hnext, before, hbefore⟩ := h.last hop
  obtain ⟨hlast, hway⟩ := h.of_trySend hop
  obtain rfl : n = data.length := by omega
  rw [(calls data.length).ops_eq, hway] at hbefore
  rcases List.eq_nil_or_concat m.out.ops with hnil | ⟨init, last, hconcat⟩
  · rw [hnil] at hop
    cases hop
  · rw [List.concat_eq_append] at hconcat
    rw [hconcat, ← List.append_assoc] at hbefore
    obtain ⟨hremoves, hsend⟩ := List.append_inj' hbefore rfl
    have hinit : init.flatMap Op.carries = [] := by
      refine List.flatMap_eq_nil_iff.mpr fun op hop => ?_
      have hmem : op ∈ before ++ init := List.mem_append_right _ hop
      rw [hremoves] at hmem
      obtain ⟨id, -, rfl⟩ := List.mem_map.mp hmem
      rfl
    have hnumeral : data = numeral data.length := by
      rw [hconcat, List.mem_append, List.mem_singleton] at hop
      rcases hop with hop | hop
      · have hmem : Op.trySend data ∈ before ++ init := List.mem_append_right _ hop
        rw [hremoves] at hmem
        simp at hmem
      · rw [← hop, List.singleton_inj] at hsend
        exact Op.trySend.inj hsend
    simp only [List.cons.injEq, and_true] at hsend
    rw [Outbound.called, hconcat, List.flatMap_append, hinit, hsend, ← hnumeral]
    rfl

/-- A step that stores no update expects none that was not expected. -/
theorem OutboundStep.expects (hstep : OutboundStep o none o') (h : o'.Expects id) :
    o.Expects id := by
  rcases h with hfound | ⟨data, hop⟩
  · obtain ⟨data, hdata⟩ := Option.ne_none_iff_exists'.mp hfound
    rcases hstep.slot_origin hdata with hbefore | hop
    · exact Or.inl (by simp [hbefore])
    · exact Or.inr ⟨data, hop⟩
  · refine Or.inr ⟨data, ?_⟩
    cases hstep with
    | op hops =>
        rw [Outbound.perform_ops] at hop
        rw [hops]
        exact List.mem_cons_of_mem _ hop
    | _ => exact hop

namespace Settled

theorem new : Settled calls Numbered.new where
  effect := rfl
  tasksApart := List.Pairwise.nil
  behindTasks := fun _ _ _ hd => by cases hd
  behindQueue := fun hw => by cases hw
  sendTasks := fun _ hd => by cases hd
  sendPending := fun _ hd => by cases hd
  removed := fun _ hd => by cases hd

/-! ### Calls -/

/-- A call has its packet still to place, unless that is a server time. -/
theorem called_of_call (n : Nat) :
    replayed calls (Numbered.numbers (((calls n).ops (numeral n)).flatMap Op.carries))
      = (calls n).write := by
  rw [(calls n).ops_eq]
  split
  · rename_i hway
    rw [Call.write_of_time hway]
    rfl
  · simp [Op.carries]
  · have hremoves : ((calls n).ends.toList.map Op.removeUpdate).flatMap Op.carries = [] := by
      simp [List.flatMap_eq_nil_iff, Op.carries]
    rw [List.flatMap_append, hremoves]
    simp [Op.carries]

theorem call (h : Settled calls m) (hplaced : m.Placed calls) (hidle : m.out.ops = [])
    (halive : m.out.dropped = false) (hplace : (calls m.next).FindsPlace calls m.out) :
    Settled calls { out := { m.out with ops := (calls m.next).ops (numeral m.next) }
                    next := m.next + 1 } := by
  have hcalled : Numbered.Placed calls
      { out := { m.out with ops := (calls m.next).ops (numeral m.next) }, next := m.next + 1 } :=
    hplaced.call halive
  have hlast : ∀ {data : Bytes}, m.next + 1 = data.length + 1 → data.length = m.next := by
    intro data hnext
    omega
  -- an update that is expected was pending, or is the one that is passed
  have hexpects : ∀ id, Outbound.Expects { m.out with ops := (calls m.next).ops (numeral m.next) } id →
      m.out.Expects id ∨ (calls m.next).way = .live id := by
    rintro id (hfound | ⟨data, hop⟩)
    · exact Or.inl (Or.inl hfound)
    · obtain ⟨hnext, hway⟩ := hcalled.of_replaceUpdate hop
      rw [hlast hnext] at hway
      exact Or.inr hway
  have hwrites : ∀ {id}, (calls m.next).way = .live id → (calls m.next).write id ≠ none := by
    intro id hway
    obtain ⟨v, hv⟩ := Call.write_of_live hway
    simp [hv, Write.put]
  refine { effect := ?_, tasksApart := h.tasksApart, behindTasks := ?_, behindQueue := ?_
           sendTasks := ?_, sendPending := ?_, removed := ?_ }
  · have heffect := h.effect
    unfold Outbound.effect Outbound.called at heffect ⊢
    rw [hidle] at heffect
    rw [called_of_call, List.range_succ, replayed_append, replayed_singleton, ← heffect]
    simp [Outbound.ahead, Outbound.taken, Outbound.held]
  · intro id hid data hdata
    rcases hexpects id hid with hbefore | hway
    · exact h.behindTasks id hbefore data hdata
    · exact (hplace.tasks data hdata id).resolve_right (hwrites hway)
  · intro hw id hid data hdata
    rcases hexpects id hid with hbefore | hway
    · exact h.behindQueue hw id hbefore data hdata
    · exact hplace.queue id hway hw data hdata
  · intro data hop data' hdata'
    rw [hlast (hcalled.of_trySend hop).1]
    exact hplace.tasks data' hdata'
  · intro data hop id hfound
    obtain ⟨hnext, hway⟩ := hcalled.of_trySend hop
    rw [hlast hnext] at hway ⊢
    refine (hplace.pending hway id hfound).imp_right fun hends => ?_
    show Op.removeUpdate id ∈ (calls m.next).ops (numeral m.next)
    rw [(calls m.next).ops_eq, hway]
    simp [hends]
  · intro id hop
    obtain ⟨n, hnext, hway, hends⟩ := hcalled.of_removeUpdate hop
    obtain rfl : m.next = n := by
      have hsame : m.next + 1 = n + 1 := hnext
      omega
    by_cases hhidden : (calls m.next).packet.action = .hideObject
    · exact Or.inl (hplace.hidden hhidden id hends)
    · refine Or.inr ⟨numeral m.next, ?_, ?_⟩
      · show Op.trySend (numeral m.next) ∈ (calls m.next).ops (numeral m.next)
        rw [(calls m.next).ops_eq, hway]
        simp
      · rw [numeral_length]
        exact Call.write_of_ends hends hhidden

/-! ### The writer and the tasks -/

/-- What is ahead does the same, and nothing else moves. -/
theorem moved (h : Settled calls m) (hstep : OutboundStep m.out none o)
    (hahead : replayed calls o.ahead = replayed calls m.out.ahead)
    (hupdates : o.latestObjectUpdates.packets = m.out.latestObjectUpdates.packets)
    (hheld : o.held = m.out.held) (hops : o.ops = m.out.ops)
    (hslot : o.writer = .slot → o.fifo = [] ∨ m.out.writer = .slot ∧ o.fifo = m.out.fifo) :
    Settled calls { m with out := o } := by
  refine { effect := ?_, tasksApart := ?_, behindTasks := ?_, behindQueue := ?_
           sendTasks := ?_, sendPending := ?_, removed := ?_ }
  · have heffect := h.effect
    unfold Outbound.effect Outbound.called LatestObjectUpdates.writes at heffect ⊢
    rw [hahead, hupdates, hops]
    exact heffect
  · show o.held.Pairwise _
    rw [hheld]
    exact h.tasksApart
  · show ∀ id, o.Expects id → ∀ data ∈ o.held, _
    rw [hheld]
    exact fun id hid => h.behindTasks id (hstep.expects hid)
  · intro hw id hid data hdata
    have hfifo : data ∈ o.fifo := hdata
    rcases hslot hw with hnone | ⟨hbefore, hsame⟩
    · rw [hnone] at hfifo
      cases hfifo
    · rw [hsame] at hfifo
      exact h.behindQueue hbefore id (hstep.expects hid) data hfifo
  · show ∀ data, .trySend data ∈ o.ops → ∀ data' ∈ o.held, _
    rw [hops, hheld]
    exact h.sendTasks
  · show ∀ data, .trySend data ∈ o.ops → ∀ id, o.latestObjectUpdates.packets.lookup id ≠ none →
      _ ∨ .removeUpdate id ∈ o.ops
    rw [hops, hupdates]
    exact h.sendPending
  · show ∀ id, .removeUpdate id ∈ o.ops → o.latestObjectUpdates.packets.lookup id = none ∨
      ∃ data, .trySend data ∈ o.ops ∧ _
    rw [hops, hupdates]
    exact h.removed

/-- A task puts its packet at the end of the queue, past those of the tasks before it. -/
theorem push (h : Settled calls m) {l₁ l₂ : List FallbackTask} {claimed : Bool}
    (htasks : m.out.tasks = l₁ ++ { data, claimed } :: l₂) :
    Settled calls
      { m with out := { m.out with tasks := l₁ ++ l₂, fifo := m.out.fifo ++ [data] } } := by
  have hheld : m.out.held = l₁.map FallbackTask.data ++ data :: l₂.map FallbackTask.data := by
    simp [Outbound.held, htasks]
  have hleft : Outbound.held { m.out with tasks := l₁ ++ l₂, fifo := m.out.fifo ++ [data] }
      = l₁.map FallbackTask.data ++ l₂.map FallbackTask.data := by
    simp [Outbound.held]
  have hmem : ∀ d ∈ l₁.map FallbackTask.data ++ l₂.map FallbackTask.data, d ∈ m.out.held := by
    intro d hd
    rw [hheld]
    rcases List.mem_append.mp hd with hd | hd
    · exact List.mem_append_left _ hd
    · exact List.mem_append_right _ (List.mem_cons_of_mem _ hd)
  have hdata : data ∈ m.out.held := by simp [hheld]
  have hapart := h.tasksApart
  rw [hheld] at hapart
  refine { h with effect := ?_, tasksApart := ?_, behindTasks := ?_, behindQueue := ?_
                  sendTasks := ?_ }
  · have hahead : replayed calls
          (Outbound.ahead { m.out with tasks := l₁ ++ l₂, fifo := m.out.fifo ++ [data] })
        = replayed calls m.out.ahead := by
      have hpast := replayed_past (Numbered.numbers m.out.taken ++ Numbered.numbers m.out.fifo)
        (Numbered.numbers (l₁.map FallbackTask.data))
        (Numbered.numbers (l₂.map FallbackTask.data)) fun i hi => by
          obtain ⟨d, hd, rfl⟩ := List.mem_map.mp hi
          exact ((List.pairwise_append.mp hapart).2.2 d hd data List.mem_cons_self).symm
      unfold Outbound.ahead
      rw [hleft, hheld]
      simpa [Outbound.taken] using hpast
    have heffect := h.effect
    unfold Outbound.effect at heffect ⊢
    rw [hahead]
    exact heffect
  · show List.Pairwise _ (Outbound.held _)
    rw [hleft]
    exact hapart.sublist ((List.append_sublist_append_left _).mpr (List.sublist_cons_self _ _))
  · intro id hid d hd
    refine h.behindTasks id hid d (hmem d ?_)
    rw [← hleft]
    exact hd
  · intro hw id hid d hd
    rcases List.mem_append.mp hd with hd | hd
    · exact h.behindQueue hw id hid d hd
    · obtain rfl := List.mem_singleton.mp hd
      exact h.behindTasks id hid d hdata
  · intro d hop d' hd'
    refine h.sendTasks d hop d' (hmem d' ?_)
    rw [← hleft]
    exact hd'

/-- The writer takes an update past the queue and the tasks. -/
theorem takeUpdate (h : Settled calls m) (hplaced : m.Placed calls) {u : LatestObjectUpdates}
    (hw : m.out.writer = .slot) (htake : m.out.latestObjectUpdates.takeNext = (some data, u))
    (hstep : OutboundStep m.out none { m.out with latestObjectUpdates := u, writer := .writing data }) :
    Settled calls
      { m with out := { m.out with latestObjectUpdates := u, writer := .writing data } } := by
  have hkeyed : ∀ id data, m.out.latestObjectUpdates.packets.lookup id = some data →
      (calls data.length).way = .live id := fun id data hfound => (hplaced.updates id data hfound).1
  obtain ⟨id, hfound, hwrites⟩ := LatestObjectUpdates.writes_takeNext hkeyed htake
  obtain ⟨v, hv⟩ := Call.write_of_live (hkeyed id data hfound)
  have hexpects : m.out.Expects id := Or.inl (by simp [hfound])
  -- what stays in the slot was in it before
  have hstays : ∀ k, u.packets.lookup k ≠ none → m.out.latestObjectUpdates.packets.lookup k ≠ none := by
    intro k hk hnone
    obtain ⟨j, -, hu⟩ := LatestObjectUpdates.takeNext_some htake
    rw [hu, AList.lookup_erase'] at hk
    split at hk
    · exact hk rfl
    · exact hk hnone
  refine { effect := ?_, tasksApart := h.tasksApart
           behindTasks := fun k hk => h.behindTasks k (hstep.expects hk)
           behindQueue := fun hslot => ?_, sendTasks := h.sendTasks
           sendPending := fun d hop k hk => h.sendPending d hop k (hstays k hk), removed := ?_ }
  · have htaken : Outbound.taken { m.out with latestObjectUpdates := u, writer := .writing data }
        = m.out.taken ++ [data] := taken_of_take (by rw [hw]; rfl) rfl rfl
    have hapart : ∀ i ∈ Numbered.numbers m.out.fifo ++ Numbered.numbers m.out.held,
        Write.Apart (calls data.length).write (calls i).write := by
      intro i hi
      have hnone : (calls i).write id = none := by
        rcases List.mem_append.mp hi with hi | hi
        · obtain ⟨d, hd, rfl⟩ := List.mem_map.mp hi
          exact h.behindQueue hw id hexpects d hd
        · obtain ⟨d, hd, rfl⟩ := List.mem_map.mp hi
          exact h.behindTasks id hexpects d hd
      intro k
      by_cases hk : k = id
      · rw [hk]
        exact Or.inr hnone
      · exact Or.inl (by simp [hv, Write.put, hk])
    have hahead : replayed calls
          (Outbound.ahead { m.out with latestObjectUpdates := u, writer := .writing data })
        = (replayed calls m.out.ahead).andThen (calls data.length).write := by
      have hpast := replayed_past (Numbered.numbers m.out.taken)
        (Numbered.numbers m.out.fifo ++ Numbered.numbers m.out.held) [] hapart
      rw [← replayed_singleton, ← replayed_append]
      unfold Outbound.ahead
      rw [htaken]
      simpa [Outbound.held] using hpast
    have heffect := h.effect
    unfold Outbound.effect at heffect ⊢
    rw [hwrites, ← Write.andThen_assoc] at heffect
    rw [hahead]
    exact heffect
  · cases hslot
  · intro k hop
    refine (h.removed k hop).imp_left fun hnone => ?_
    by_contra hk
    exact hstays k hk hnone

/-! ### The operations of a call -/

/-- An operation that has to do with the server time or a permit is over. -/
theorem pop (h : Settled calls m) {op : Op} {rest : List Op} (hops : m.out.ops = op :: rest)
    (hcarries : op.carries = []) (hremove : ∀ id, op ≠ .removeUpdate id)
    (hsend : ∀ data, op ≠ .trySend data) :
    Settled calls { m with out := { m.out with ops := rest } } := by
  have hmem : ∀ {x}, x ∈ rest → x ∈ m.out.ops := fun hx => by
    rw [hops]
    exact List.mem_cons_of_mem _ hx
  have hexpects : ∀ id, Outbound.Expects { m.out with ops := rest } id → m.out.Expects id := by
    rintro id (hfound | ⟨data, hop⟩)
    · exact Or.inl hfound
    · exact Or.inr ⟨data, hmem hop⟩
  refine { effect := ?_, tasksApart := h.tasksApart
           behindTasks := fun id hid => h.behindTasks id (hexpects id hid)
           behindQueue := fun hw id hid => h.behindQueue hw id (hexpects id hid)
           sendTasks := fun data hop => h.sendTasks data (hmem hop)
           sendPending := fun data hop id hfound => ?_, removed := fun id hop => ?_ }
  · have heffect := h.effect
    unfold Outbound.effect Outbound.called at heffect ⊢
    rw [hops, List.flatMap_cons, hcarries, List.nil_append] at heffect
    exact heffect
  · refine (h.sendPending data (hmem hop) id hfound).imp_right fun hremoved => ?_
    rw [hops] at hremoved
    exact (List.mem_cons.mp hremoved).resolve_left fun heq => hremove id heq.symm
  · refine (h.removed id (hmem hop)).imp_right ?_
    rintro ⟨data, hlater, hwrite⟩
    rw [hops] at hlater
    exact ⟨data, (List.mem_cons.mp hlater).resolve_left fun heq => hsend data heq.symm, hwrite⟩

/-- A pending update is thrown away: the packet that ends the object's life would write over it. -/
theorem removeUpdate (h : Settled calls m) (hplaced : m.Placed calls) {rest : List Op}
    (hops : m.out.ops = .removeUpdate id :: rest) :
    Settled calls
      { m with out := { m.out with ops := rest
                                   latestObjectUpdates := m.out.latestObjectUpdates.remove id } } := by
  have hmem : ∀ {x}, x ∈ rest → x ∈ m.out.ops := fun hx => by
    rw [hops]
    exact List.mem_cons_of_mem _ hx
  have hlookup : ∀ k, (m.out.latestObjectUpdates.remove id).packets.lookup k
      = if k = id then none else m.out.latestObjectUpdates.packets.lookup k :=
    fun k => AList.lookup_erase' id k
  have hstays : ∀ k, (m.out.latestObjectUpdates.remove id).packets.lookup k ≠ none →
      k ≠ id ∧ m.out.latestObjectUpdates.packets.lookup k ≠ none := by
    intro k hk
    rw [hlookup] at hk
    split at hk
    · exact absurd rfl hk
    · exact ⟨‹_›, hk⟩
  have hexpects : ∀ k, Outbound.Expects
      { m.out with ops := rest, latestObjectUpdates := m.out.latestObjectUpdates.remove id } k →
      m.out.Expects k := by
    rintro k (hfound | ⟨data, hop⟩)
    · exact Or.inl (hstays k hfound).2
    · exact Or.inr ⟨data, hmem hop⟩
  refine { effect := ?_, tasksApart := h.tasksApart
           behindTasks := fun k hk => h.behindTasks k (hexpects k hk)
           behindQueue := fun hw k hk => h.behindQueue hw k (hexpects k hk)
           sendTasks := fun data hop => h.sendTasks data (hmem hop)
           sendPending := fun data hop k hk => ?_, removed := fun k hop => ?_ }
  · have heffect := h.effect
    rw [← heffect]
    have hcalled : m.out.called = rest.flatMap Op.carries := by
      simp [Outbound.called, hops, Op.carries]
    unfold Outbound.effect
    rw [hcalled, LatestObjectUpdates.writes_remove]
    funext k
    show (replayed calls (Numbered.numbers (rest.flatMap Op.carries)) k).or
        ((if k = id then none else m.out.latestObjectUpdates.writes calls k).or
          (replayed calls m.out.ahead k))
      = (replayed calls (Numbered.numbers (rest.flatMap Op.carries)) k).or
        ((m.out.latestObjectUpdates.writes calls k).or (replayed calls m.out.ahead k))
    split
    · rename_i hk
      subst hk
      rcases h.removed k (by simp [hops]) with hnone | ⟨data, hop, hwrite⟩
      · simp [LatestObjectUpdates.writes, hnone]
      · -- the packet that is still to be queued writes over the object
        obtain ⟨x, hx⟩ := Option.ne_none_iff_exists'.mp hwrite
        have hlast : replayed calls (Numbered.numbers (rest.flatMap Op.carries)) k = some x := by
          rw [← hcalled, hplaced.called_of_trySend hop, Numbered.numbers_cons, Numbered.numbers_nil,
            replayed_singleton, hx]
        simp [hlast]
    · rfl
  · obtain ⟨hne, hbefore⟩ := hstays k hk
    refine (h.sendPending data (hmem hop) k hbefore).imp_right fun hremoved => ?_
    rw [hops] at hremoved
    exact (List.mem_cons.mp hremoved).resolve_left fun heq => hne (Op.removeUpdate.inj heq)
  · rw [hlookup]
    split
    · exact Or.inl rfl
    · refine (h.removed k (hmem hop)).imp_right ?_
      rintro ⟨data, hlater, hwrite⟩
      rw [hops] at hlater
      exact ⟨data, (List.mem_cons.mp hlater).resolve_left (by simp), hwrite⟩

/-- A live update takes its object's place in the slot. -/
theorem replaceUpdate (h : Settled calls m) (hplaced : m.Placed calls) {rest : List Op}
    (hops : m.out.ops = .replaceUpdate id data :: rest) :
    Settled calls
      { m with out := { m.out with
          ops := rest, latestObjectUpdates := m.out.latestObjectUpdates.replace id data } } := by
  have hop : .replaceUpdate id data ∈ m.out.ops := by simp [hops]
  obtain ⟨hnext, hway⟩ := hplaced.of_replaceUpdate hop
  have hmem : ∀ {x}, x ∈ rest → x ∈ m.out.ops := fun hx => by
    rw [hops]
    exact List.mem_cons_of_mem _ hx
  have hexpects : ∀ k, Outbound.Expects
      { m.out with ops := rest, latestObjectUpdates := m.out.latestObjectUpdates.replace id data } k →
      m.out.Expects k := by
    rintro k (hfound | ⟨d, hlater⟩)
    · have hlookup : (m.out.latestObjectUpdates.replace id data).packets.lookup k
          = if k = id then some data else m.out.latestObjectUpdates.packets.lookup k :=
        AList.lookup_insert' id k data
      dsimp only at hfound
      rw [hlookup] at hfound
      split at hfound
      · rename_i hk
        exact Or.inr ⟨data, by rw [hk]; exact hop⟩
      · exact Or.inl hfound
    · exact Or.inr ⟨d, hmem hlater⟩
  refine { effect := ?_, tasksApart := h.tasksApart
           behindTasks := fun k hk => h.behindTasks k (hexpects k hk)
           behindQueue := fun hw k hk => h.behindQueue hw k (hexpects k hk)
           sendTasks := fun d hd => h.sendTasks d (hmem hd)
           sendPending := fun d hd => ?_, removed := fun k hd => ?_ }
  · have hcalled : Numbered.numbers m.out.called
        = data.length :: Numbered.numbers (rest.flatMap Op.carries) := by
      simp [Outbound.called, hops, Op.carries]
    have heffect := h.effect
    unfold Outbound.effect at heffect ⊢
    rw [hcalled, ← List.singleton_append, replayed_append, replayed_singleton,
      Write.andThen_assoc] at heffect
    dsimp only
    rw [LatestObjectUpdates.writes_replace hway, ← heffect]
    simp only [Write.andThen_assoc]
    rfl
  -- a live update is the only packet of its call
  · obtain ⟨hnext', hway'⟩ := hplaced.of_trySend (hmem hd)
    obtain hsame : d.length = data.length := by omega
    rw [hsame, hway] at hway'
    cases hway'
  · obtain ⟨n, hnext', hway', -⟩ := hplaced.of_removeUpdate (hmem hd)
    obtain rfl : n = data.length := by omega
    rw [hway] at hway'
    cases hway'

/-- What is handed over is apart from the pending updates. -/
theorem handed (h : Settled calls m) (hplaced : m.Placed calls) {rest : List Op}
    (hops : m.out.ops = .trySend data :: rest) :
    Write.Apart (calls data.length).write (m.out.latestObjectUpdates.writes calls) := by
  refine LatestObjectUpdates.apart_writes fun id hfound => ?_
  refine (h.sendPending data (by simp [hops]) id hfound).resolve_right fun hremoved => ?_
  rw [hops, hplaced.rest_of_trySend hops] at hremoved
  simp at hremoved

/-- Where a packet goes past the pending updates to the end of what is ahead, nothing changes. -/
theorem effect_of_handed (h : Settled calls m) (hplaced : m.Placed calls) {rest : List Op}
    (hops : m.out.ops = .trySend data :: rest)
    (hahead : replayed calls o.ahead = (replayed calls m.out.ahead).andThen (calls data.length).write)
    (hupdates : o.latestObjectUpdates = m.out.latestObjectUpdates) (ho : o.ops = []) :
    o.effect calls = replayed calls (List.range m.next) := by
  have heffect := h.effect
  have hop : .trySend data ∈ m.out.ops := by simp [hops]
  unfold Outbound.effect at heffect ⊢
  rw [hplaced.called_of_trySend hop, Numbered.numbers_cons, Numbered.numbers_nil,
    replayed_singleton, Write.andThen_assoc, ← (h.handed hplaced hops).comm] at heffect
  have hcalled : o.called = [] := by simp [Outbound.called, ho]
  rw [hahead, hupdates, hcalled, Numbered.numbers_nil, replayed_nil, Write.andThen_skip,
    Write.andThen_assoc, heffect]

/-- What remains to be shown of a packet that was handed over. -/
theorem of_handed (heffect : o.effect calls = replayed calls (List.range m.next))
    (hops : o.ops = []) (hupdates : o.latestObjectUpdates = m.out.latestObjectUpdates)
    (hheld : o.held.Pairwise fun a b => Write.Apart (calls a.length).write (calls b.length).write)
    (hbehindTasks : ∀ id, m.out.latestObjectUpdates.packets.lookup id ≠ none →
      ∀ d ∈ o.held, (calls d.length).write id = none)
    (hbehindQueue : o.writer = .slot → ∀ id, m.out.latestObjectUpdates.packets.lookup id ≠ none →
      ∀ d ∈ o.fifo, (calls d.length).write id = none) :
    Settled calls { m with out := o } := by
  have hexpects : ∀ id, o.Expects id → m.out.latestObjectUpdates.packets.lookup id ≠ none := by
    rintro id (hfound | ⟨d, hd⟩)
    · rw [← hupdates]
      exact hfound
    · rw [hops] at hd
      cases hd
  have hnone : ∀ {x}, x ∉ o.ops := fun hx => by
    rw [hops] at hx
    cases hx
  exact { effect := heffect, tasksApart := hheld
          behindTasks := fun id hid => hbehindTasks id (hexpects id hid)
          behindQueue := fun hw id hid => hbehindQueue hw id (hexpects id hid)
          sendTasks := fun _ hd => absurd hd hnone
          sendPending := fun _ hd => absurd hd hnone
          removed := fun _ hd => absurd hd hnone }

/-- A packet is queued, past those that wait in tasks. -/
theorem queued (h : Settled calls m) (hplaced : m.Placed calls) {rest : List Op}
    (hops : m.out.ops = .trySend data :: rest) :
    Settled calls { m with out := { m.out with ops := rest, fifo := m.out.fifo ++ [data] } } := by
  have hrest := hplaced.rest_of_trySend hops
  have hop : .trySend data ∈ m.out.ops := by simp [hops]
  have hahead : replayed calls
        (Outbound.ahead { m.out with ops := rest, fifo := m.out.fifo ++ [data] })
      = (replayed calls m.out.ahead).andThen (calls data.length).write := by
    have hpast := replayed_past (Numbered.numbers m.out.taken ++ Numbered.numbers m.out.fifo)
      (Numbered.numbers m.out.held) [] fun i hi => by
        obtain ⟨d, hd, rfl⟩ := List.mem_map.mp hi
        exact (h.sendTasks data hop d hd).symm
    rw [← replayed_singleton, ← replayed_append]
    unfold Outbound.ahead
    simpa [Outbound.taken, Outbound.held] using hpast
  have hpending : ∀ id, m.out.latestObjectUpdates.packets.lookup id ≠ none →
      (calls data.length).write id = none := by
    intro id hfound
    refine (h.sendPending data hop id hfound).resolve_right fun hremoved => ?_
    rw [hops, hrest] at hremoved
    simp at hremoved
  refine of_handed (h.effect_of_handed hplaced hops hahead rfl hrest) hrest rfl h.tasksApart
    (fun id hfound => h.behindTasks id (Or.inl hfound)) fun hw id hfound d hd => ?_
  rcases List.mem_append.mp hd with hd | hd
  · exact h.behindQueue hw id (Or.inl hfound) d hd
  · obtain rfl := List.mem_singleton.mp hd
    exact hpending id hfound

/-- A packet that finds no room waits in a task behind the others. -/
theorem waits (h : Settled calls m) (hplaced : m.Placed calls) {rest : List Op}
    (hops : m.out.ops = .trySend data :: rest) :
    Settled calls { m with out := { m.out with
      ops := rest, tasks := m.out.tasks ++ [{ data, claimed := false }] } } := by
  have hrest := hplaced.rest_of_trySend hops
  have hop : .trySend data ∈ m.out.ops := by simp [hops]
  have hheld : Outbound.held { m.out with
      ops := rest, tasks := m.out.tasks ++ [{ data, claimed := false }] } = m.out.held ++ [data] := by
    simp [Outbound.held]
  have hahead : replayed calls (Outbound.ahead { m.out with
        ops := rest, tasks := m.out.tasks ++ [{ data, claimed := false }] })
      = (replayed calls m.out.ahead).andThen (calls data.length).write := by
    rw [← replayed_singleton, ← replayed_append]
    unfold Outbound.ahead
    rw [hheld]
    simp [Outbound.taken]
  refine of_handed (h.effect_of_handed hplaced hops hahead rfl hrest) hrest rfl ?_ ?_
    fun hw id hfound => h.behindQueue hw id (Or.inl hfound)
  · rw [hheld]
    refine List.pairwise_append.mpr ⟨h.tasksApart, List.pairwise_singleton _ _, ?_⟩
    intro a ha b hb
    obtain rfl := List.mem_singleton.mp hb
    exact h.sendTasks b hop a ha
  · intro id hfound d hd
    rw [hheld] at hd
    rcases List.mem_append.mp hd with hd | hd
    · exact h.behindTasks id (Or.inl hfound) d hd
    · obtain rfl := List.mem_singleton.mp hd
      refine (h.sendPending d hop id hfound).resolve_right fun hremoved => ?_
      rw [hops, hrest] at hremoved
      simp at hremoved

theorem perform (h : Settled calls m) (hplaced : m.Placed calls) {op : Op} {rest : List Op}
    (hops : m.out.ops = op :: rest) (hopen : m.out.writer ≠ .stopped) :
    Settled calls { m with out := { m.out with ops := rest }.perform op } := by
  cases op with
  | replaceTime data => exact { h.pop hops rfl (by simp) (by simp) with }
  | notifyTime => exact { h.pop hops rfl (by simp) (by simp) with }
  | notifyUpdates => exact { h.pop hops rfl (by simp) (by simp) with }
  | removeUpdate id => exact h.removeUpdate hplaced hops
  | replaceUpdate id data => exact h.replaceUpdate hplaced hops
  | trySend data =>
      rcases Outbound.perform_trySend { m.out with ops := rest } data with
        ⟨hstopped, _⟩ | ⟨_, _, heq⟩ | ⟨_, _, heq⟩
      · exact absurd hstopped hopen
      · rw [heq]
        exact h.queued hplaced hops
      · rw [heq]
        exact h.waits hplaced hops

/-! ### Steps and runs -/

/-- A writer that moves on with empty hands, or holds what it has just taken from the queue, finds
the same packets ahead. -/
theorem ahead_of_taken (htaken : o.taken ++ o.fifo = o'.taken ++ o'.fifo) (hheld : o.held = o'.held) :
    o.ahead = o'.ahead := by
  unfold Outbound.ahead
  rw [← List.append_assoc, ← Numbered.numbers_append, htaken, hheld, Numbered.numbers_append,
    List.append_assoc]

theorem turn (h : Settled calls m) (hstep : OutboundStep m.out none o)
    (htaken : o.taken ++ o.fifo = m.out.taken ++ m.out.fifo) (hheld : o.held = m.out.held)
    (hupdates : o.latestObjectUpdates.packets = m.out.latestObjectUpdates.packets)
    (hops : o.ops = m.out.ops)
    (hslot : o.writer = .slot → o.fifo = [] ∨ m.out.writer = .slot ∧ o.fifo = m.out.fifo) :
    Settled calls { m with out := o } :=
  h.moved hstep (by rw [ahead_of_taken htaken hheld]) hupdates hheld hops hslot

theorem silent (h : Settled calls m) (hplaced : m.Placed calls) (hwhole : Whole calls m)
    (hstep : OutboundStep m.out none o)
    (hfails : o.writer = .stopped →
      m.out.writer ≠ .handshake ∧ ∀ data, m.out.writer ≠ .writing data) :
    Settled calls { m with out := o } := by
  have hstep' := hstep
  -- with empty hands before and after, what is taken is what is written
  have hidle : ∀ {w w' : Writer} {fifo : List Bytes}, m.out.writer = w → w.hand = [] → w'.hand = [] →
      fifo = m.out.fifo → m.out.wire ++ w'.hand ++ fifo = m.out.taken ++ m.out.fifo := by
    intro w w' fifo hw hhand hhand' hfifo
    rw [hfifo, hhand', Outbound.taken, hw, hhand]
  have hfetch : ∀ {w : Writer} {data : Bytes} {rest : List Bytes}, m.out.writer = w → w.hand = [] →
      m.out.fifo = data :: rest → m.out.wire ++ [data] ++ rest = m.out.taken ++ m.out.fifo := by
    intro w data rest hw hhand hfifo
    rw [hfifo, Outbound.taken, hw, hhand]
    simp
  cases hstep with
  | op hops => exact h.perform hplaced hops (hwhole.open_of_call hplaced hops)
  | drop _ => exact h.turn hstep' rfl rfl rfl rfl fun hw => Or.inr ⟨hw, rfl⟩
  | @claim l₁ l₂ data htasks _ _ =>
      refine h.turn hstep' rfl ?_ rfl rfl fun hw => Or.inr ⟨hw, rfl⟩
      simp [Outbound.held, htasks]
  | push htasks _ => exact h.push htasks
  | failed htasks hstopped =>
      exact absurd (hwhole.closed hstopped) (hplaced.orderly.open_of_task htasks)
  | authenticated hw => exact h.turn hstep' (hidle hw rfl rfl rfl) rfl rfl rfl fun hw => by cases hw
  | refused hw => exact absurd hw (hfails rfl).1
  | @takeTime data hw htime =>
      have htaken : Outbound.taken { m.out with latestServerTime := none, writer := .writing data }
          = m.out.taken ++ [data] := taken_of_take (by rw [hw]; rfl) rfl rfl
      refine h.moved hstep' ?_ rfl rfl rfl fun hw => by cases hw
      unfold Outbound.ahead
      rw [htaken]
      simp only [Numbered.numbers_append, Numbered.numbers_cons, Numbered.numbers_nil,
        replayed_append, replayed_singleton, Call.write_of_time (hplaced.time data htime).1,
        Write.andThen_skip]
      rfl
  | noTime hw _ => exact h.turn hstep' (hidle hw rfl rfl rfl) rfl rfl rfl fun hw => by cases hw
  | tryRecv hw _ hfifo => exact h.turn hstep' (hfetch hw rfl hfifo) rfl rfl rfl fun hw => by cases hw
  | empty hw _ hfifo _ =>
      exact h.turn hstep' (hidle hw rfl rfl rfl) rfl rfl rfl fun _ => Or.inl hfifo
  | disconnected hw _ hfifo _ _ =>
      exact h.turn hstep' (hidle hw rfl rfl rfl) rfl rfl rfl fun _ => Or.inl hfifo
  | skipFifo hw hclosed =>
      have hfifo := (hplaced.orderly.closed hclosed).1
      exact h.turn hstep' (hidle hw rfl rfl rfl) rfl rfl rfl fun _ => Or.inl hfifo
  | takeUpdate hw htake => exact h.takeUpdate hplaced hw htake hstep'
  | noUpdate hw htake =>
      exact h.turn hstep' (hidle hw rfl rfl rfl) rfl (LatestObjectUpdates.takeNext_none htake) rfl
        fun hw => by cases hw
  | finished hw hclosed =>
      have hfifo := (hplaced.orderly.closed hclosed).1
      exact h.turn hstep' (hidle hw rfl rfl hfifo.symm) rfl rfl rfl fun hw => by cases hw
  | wakeTime hw _ _ => exact h.turn hstep' (hidle hw rfl rfl rfl) rfl rfl rfl fun hw => by cases hw
  | recv hw _ hfifo => exact h.turn hstep' (hfetch hw rfl hfifo) rfl rfl rfl fun hw => by cases hw
  | recvNone hw _ _ _ _ =>
      exact h.turn hstep' (hidle hw rfl rfl rfl) rfl rfl rfl fun hw => by cases hw
  | wakeUpdates hw _ _ =>
      exact h.turn hstep' (hidle hw rfl rfl rfl) rfl rfl rfl fun hw => by cases hw
  | written hw =>
      refine h.turn hstep' ?_ rfl rfl rfl fun hw => by cases hw
      simp [Outbound.taken, hw, Writer.hand]
  | writeError hw => exact absurd hw ((hfails rfl).2 _)

theorem step (h : Settled calls m) (hplaced : m.Placed calls) (hwhole : Whole calls m)
    {e : Option Call} (hstep : SettledStep calls m e m') : Settled calls m' := by
  obtain ⟨⟨hstep, hfails⟩, hplace⟩ := hstep
  cases hstep with
  | call hidle halive _ => exact h.call hplaced hidle halive (hplace rfl)
  | silent hstep => exact h.silent hplaced hwhole hstep hfails

end Settled

/-- A writer that has left the loop has left no update behind. -/
def Numbered.LeavesNothing (m : Numbered) : Prop :=
  m.out.writer = .stopped → m.out.latestObjectUpdates.packets = ∅

theorem Numbered.LeavesNothing.silent (h : m.LeavesNothing) (hplaced : m.Placed calls)
    (hwhole : Whole calls m) (hannounced : Announced m.out) (hstep : OutboundStep m.out none o)
    (hfails : o.writer = .stopped →
      m.out.writer ≠ .handshake ∧ ∀ data, m.out.writer ≠ .writing data) :
    Numbered.LeavesNothing { m with out := o } := by
  intro hstopped
  by_cases hw : m.out.writer = .stopped
  · -- the client was dropped, so nothing more is stored
    have hops := hplaced.orderly.quiet (hplaced.orderly.closed (hwhole.closed hw)).2.2
    refine AList.eq_empty_of_notMem fun id hid => ?_
    obtain ⟨data, hdata⟩ := Option.isSome_iff_exists.mp (AList.lookup_isSome.mpr hid)
    rcases hstep.slot_origin hdata with hbefore | hop
    · rw [h hw] at hbefore
      cases hbefore
    · rw [hops] at hop
      cases hop
  · cases OutboundStep.lineMove hplaced hstep with
    | kept _ _ _ hiff _ _ => exact absurd (hiff.mp hstopped) hw
    | queued _ _ _ ho =>
        rw [ho] at hstopped
        exact absurd hstopped hw
    | waits _ _ _ ho =>
        rw [ho] at hstopped
        exact absurd hstopped hw
    | lost _ hbefore _ => exact absurd hbefore hw
    | pushed _ _ ho =>
        rw [ho] at hstopped
        exact absurd hstopped hw
    | failed _ hbefore _ => exact absurd hbefore hw
    | stopped _ hcause ho =>
        rcases hcause with ⟨hwait, hclosed⟩ | hshake | ⟨data, hwriting⟩
        · rw [ho]
          exact hannounced.done hwait hclosed
        · exact absurd hshake (hfails hstopped).1
        · exact absurd hwriting ((hfails hstopped).2 data)

theorem Settled.announced (h : Transition.Run (SettledStep calls) Numbered.new tr m) :
    Announced m.out :=
  (Announced.run (h.mono fun _ _ _ hstep => hstep.1.1)).2

theorem Settled.run (h : Transition.Run (SettledStep calls) Numbered.new tr m) :
    m.Placed calls ∧ Whole calls m ∧ Settled calls m ∧ m.LeavesNothing := by
  refine h.history (P := fun _ m => m.Placed calls ∧ Whole calls m ∧ Settled calls m ∧
    m.LeavesNothing) ⟨.new, .new, .new, fun hw => by cases hw⟩ ?_
  rintro tr a e b hrun hstep ⟨hplaced, hwhole, hsettled, hleaves⟩
  refine ⟨hplaced.step hstep.1.1, hwhole.step hplaced hstep.1,
    hsettled.step hplaced hwhole hstep, ?_⟩
  obtain ⟨⟨hmove, hfails⟩, -⟩ := hstep
  cases hmove with
  | call _ _ _ => exact hleaves
  | silent hmove => exact hleaves.silent hplaced hwhole (Settled.announced hrun) hmove hfails

/-- When nothing is on its way the wire does all that was passed. -/
theorem Settled.drained (h : Settled calls m) (hhand : m.out.writer.hand = []) (hfifo : m.out.fifo = [])
    (htasks : m.out.tasks = []) (hops : m.out.ops = [])
    (hupdates : m.out.latestObjectUpdates.packets = ∅) :
    replayed calls m.written = replayed calls (List.range m.next) := by
  have heffect := h.effect
  have hwrites : m.out.latestObjectUpdates.writes calls = .skip := by
    funext id
    simp [LatestObjectUpdates.writes, hupdates, Write.skip]
  simpa [Outbound.effect, Outbound.ahead, Outbound.taken, Outbound.held, Outbound.called,
    Numbered.written, hhand, hfifo, htasks, hops, hwrites] using heffect

theorem Settled.asleep (h : Transition.Run (SettledStep calls) Numbered.new tr m)
    (hasleep : m.out.Asleep) (hidle : m.out.ops = []) (htasks : m.out.tasks = []) :
    replayed calls m.written = replayed calls (List.range m.next) := by
  obtain ⟨-, -, hsettled, -⟩ := Settled.run h
  exact hsettled.drained (by rw [hasleep.waits]; rfl) hasleep.fifo htasks hidle
    ((Settled.announced h).asleep_idle hasleep hidle).2

/-- **Coalescing cannot be seen.**  Where every call finds its place and no write fails, the
packets on the wire, followed by what is on its way, do to the replica of the client what the
packets that were passed do one after the other.  So when the writer sleeps between two calls and
no task waits, and when it has left the loop, the wire alone does. -/
theorem coalescing_invisible (h : Transition.Run (SettledStep calls) Numbered.new tr m) :
    m.out.effect calls = replayed calls (List.range m.next) ∧
      (m.out.Asleep → m.out.ops = [] → m.out.tasks = [] →
        replayed calls m.written = replayed calls (List.range m.next)) ∧
      (m.out.writer = .stopped → replayed calls m.written = replayed calls (List.range m.next)) := by
  obtain ⟨hplaced, hwhole, hsettled, hleaves⟩ := Settled.run h
  refine ⟨hsettled.effect, Settled.asleep h, fun hstopped => ?_⟩
  obtain ⟨hfifo, htasks, hdropped⟩ := hplaced.orderly.closed (hwhole.closed hstopped)
  exact hsettled.drained (by rw [hstopped]; rfl) hfifo htasks (hplaced.orderly.quiet hdropped)
    (hleaves hstopped)

/-- With no task a live update finds its place, unless the writer is about to look for it. -/
theorem Call.findsPlace_live {call : Call} (hway : call.way = .live id) (htasks : o.tasks = [])
    (hw : o.writer ≠ .slot) : call.FindsPlace calls o where
  tasks := fun data hd => by
    rw [Outbound.held, htasks] at hd
    cases hd
  pending := fun hqueue => by
    rw [hway] at hqueue
    cases hqueue
  hidden := fun haction => by
    rw [(Call.action_of_live hway).1] at haction
    cases haction
  queue := fun _ _ hslot => absurd hslot hw

/-- With no task and an empty slot a packet that is queued finds its place. -/
theorem Call.findsPlace_queue {call : Call} (hway : call.way = .queue) (htasks : o.tasks = [])
    (hslot : o.latestObjectUpdates.packets = ∅) : call.FindsPlace calls o where
  tasks := fun data hd => by
    rw [Outbound.held, htasks] at hd
    cases hd
  pending := fun _ id hfound => by
    rw [hslot] at hfound
    exact absurd (AList.lookup_empty id) hfound
  hidden := fun _ id _ => by
    rw [hslot]
    exact AList.lookup_empty id
  queue := fun id hlive => by
    rw [hway] at hlive
    cases hlive

theorem NumberedStep.settled_silent (h : NumberedStep calls m none m')
    (hopen : m'.out.writer ≠ .stopped) : SettledStep calls m none m' :=
  ⟨h.whole hopen, fun hsome => by cases hsome⟩

theorem NumberedStep.settled {call : Call} (h : NumberedStep calls m (some call) m')
    (hplace : (calls m.next).FindsPlace calls m.out) : SettledStep calls m (some call) m' := by
  refine ⟨⟨h, fun hstopped => ?_⟩, fun _ => hplace⟩
  cases h with
  | call _ _ _ =>
      have hw : m.out.writer = .stopped := hstopped
      simp [hw]

end

/-- A server that creates an object and updates it twice. -/
def createThenLive : Nat → Call
  | 0 => .send (firstUpdate 1)
  | n + 1 => .sendRealtimeUpdate (firstUpdate (UInt8.ofNat (n + 2)))

/-- The second update takes the place of the first. -/
theorem coalescing_invisible_twice :
    ∃ tr m, Transition.Run (SettledStep createThenLive) Numbered.new tr m ∧ m.written = [0, 2] ∧
      replayed createThenLive [0, 2] = replayed createThenLive [0, 1, 2] := by
  have hlive : ∀ {o : Outbound} (n : Nat), o.tasks = [] → o.writer ≠ .slot →
      (createThenLive (n + 1)).FindsPlace createThenLive o :=
    fun n htasks hw => Call.findsPlace_live (show (createThenLive (n + 1)).way = .live 1 from rfl) htasks hw
  have hrun := (Transition.Run.nil :
      Transition.Run (SettledStep createThenLive) Numbered.new [] Numbered.new)
    |>.snoc (NumberedStep.silent (.authenticated rfl) |>.settled_silent (by simp))
    |>.snoc (NumberedStep.call rfl rfl rfl |>.settled (Call.findsPlace_queue rfl rfl rfl))
    |>.snoc (NumberedStep.silent (.op rfl) |>.settled_silent (by simp))
    |>.snoc (NumberedStep.call rfl rfl rfl |>.settled (hlive 0 rfl (by simp)))
    |>.snoc (NumberedStep.silent (.op rfl) |>.settled_silent (by simp))
    |>.snoc (NumberedStep.silent (.op rfl) |>.settled_silent (by simp))
    |>.snoc (NumberedStep.call rfl rfl rfl |>.settled (hlive 1 rfl (by simp)))
    |>.snoc (NumberedStep.silent (.op rfl) |>.settled_silent (by simp))
    |>.snoc (NumberedStep.silent (.op rfl) |>.settled_silent (by simp))
    |>.snoc (NumberedStep.silent (.noTime rfl rfl) |>.settled_silent (by simp))
    |>.snoc (NumberedStep.silent (.tryRecv rfl rfl rfl) |>.settled_silent (by simp))
    |>.snoc (NumberedStep.silent (.written rfl) |>.settled_silent (by simp))
    |>.snoc (NumberedStep.silent (.noTime rfl rfl) |>.settled_silent (by simp))
    |>.snoc (NumberedStep.silent (.empty rfl rfl rfl (.inl rfl)) |>.settled_silent (by simp))
    |>.snoc (NumberedStep.silent (.takeUpdate rfl rfl) |>.settled_silent (by simp))
    |>.snoc (NumberedStep.silent (.written rfl) |>.settled_silent (by simp))
    |>.snoc (NumberedStep.silent (.noTime rfl rfl) |>.settled_silent (by simp))
    |>.snoc (NumberedStep.silent (.empty rfl rfl rfl (.inl rfl)) |>.settled_silent (by simp))
    |>.snoc (NumberedStep.silent (.noUpdate rfl rfl) |>.settled_silent (by simp))
    |>.snoc (NumberedStep.silent (.wakeUpdates rfl rfl rfl) |>.settled_silent (by simp))
    |>.snoc (NumberedStep.silent (.noTime rfl rfl) |>.settled_silent (by simp))
    |>.snoc (NumberedStep.silent (.empty rfl rfl rfl (.inl rfl)) |>.settled_silent (by simp))
    |>.snoc (NumberedStep.silent (.noUpdate rfl rfl) |>.settled_silent (by simp))
  exact ⟨_, _, hrun, rfl, (coalescing_invisible hrun).2.1 ⟨rfl, rfl, rfl, rfl, .inl rfl, rfl⟩ rfl rfl⟩

end VangersSrv
