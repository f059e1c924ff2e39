/-
Where a numbered packet can be.

A packet moves from the call that passed it to the place its way leads to, from there into the
writer's hands and onto the wire.  `Placed` says that no packet is anywhere else, and `Orderly`
what a client that was dropped and a queue that was found closed have left behind.
-/
import VangersSrv.Client.Numbering

namespace VangersSrv

/-! ### What an operation leaves alone -/

namespace Outbound

/-- The three outcomes of `try_send`. -/
theorem perform_trySend (o : Outbound) (data : Bytes) :
    (o.writer = .stopped ∧ o.perform (.trySend data) = o) ∨
    (o.writer ≠ .stopped ∧ 0 < o.permits ∧
      o.perform (.trySend data) = { o with fifo := o.fifo ++ [data] }) ∨
    (o.writer ≠ .stopped ∧ ¬ 0 < o.permits ∧
      o.perform (.trySend data) = { o with tasks := o.tasks ++ [{ data, claimed := false }] }) := by
  by_cases hw : o.writer = .stopped
  · exact Or.inl ⟨hw, by simp [perform, hw]⟩
  · by_cases hroom : 0 < o.permits
    · exact Or.inr (Or.inl ⟨hw, hroom, by simp [perform, hw, hroom]⟩)
    · exact Or.inr (Or.inr ⟨hw, hroom, by simp [perform, hw, hroom]⟩)

/-- An operation does not touch the writer or the call. -/
theorem perform_frame (o : Outbound) (op : Op) :
    (o.perform op).ops = o.ops ∧ (o.perform op).dropped = o.dropped ∧
      (o.perform op).writer = o.writer ∧ (o.perform op).rxServerClosed = o.rxServerClosed ∧
      (o.perform op).wire = o.wire := by
  cases op with
  | trySend data =>
      rcases o.perform_trySend data with ⟨_, heq⟩ | ⟨_, _, heq⟩ | ⟨_, _, heq⟩
      · rw [heq]
        exact ⟨rfl, rfl, rfl, rfl, rfl⟩
      · rw [heq]
        exact ⟨rfl, rfl, rfl, rfl, rfl⟩
      · rw [heq]
        exact ⟨rfl, rfl, rfl, rfl, rfl⟩
  | _ => exact ⟨rfl, rfl, rfl, rfl, rfl⟩

variable (o : Outbound) (op : Op)

@[simp] theorem perform_ops : (o.perform op).ops = o.ops := (o.perform_frame op).1

@[simp] theorem perform_dropped : (o.perform op).dropped = o.dropped := (o.perform_frame op).2.1

@[simp] theorem perform_writer : (o.perform op).writer = o.writer := (o.perform_frame op).2.2.1

@[simp] theorem perform_rxServerClosed : (o.perform op).rxServerClosed = o.rxServerClosed :=
  (o.perform_frame op).2.2.2.1

@[simp] theorem perform_wire : (o.perform op).wire = o.wire := (o.perform_frame op).2.2.2.2

end Outbound

/-! ### After the server has let go -/

/-- What holds once the server dropped the client, and once the writer found the queue closed. -/
structure Outbound.Orderly (o : Outbound) : Prop where
  quiet : o.dropped = true → o.ops = []
  closed : o.rxServerClosed = true → o.fifo = [] ∧ o.tasks = [] ∧ o.dropped = true

namespace Outbound.Orderly

variable {o o' : Outbound}

theorem new : Orderly Outbound.new where
  quiet := fun _ => rfl
  closed := fun hclosed => by cases hclosed

/-- The server has not let go while it makes a call. -/
theorem alive (h : Orderly o) {op : Op} {rest : List Op} (hops : o.ops = op :: rest) :
    o.dropped = false ∧ o.rxServerClosed = false := by
  have hdropped : o.dropped = false := by
    by_contra hdropped
    rw [h.quiet (by simpa using hdropped)] at hops
    cases hops
  refine ⟨hdropped, ?_⟩
  by_contra hclosed
  rw [(h.closed (by simpa using hclosed)).2.2] at hdropped
  cases hdropped

/-- With a task left the queue is not closed. -/
theorem open_of_task (h : Orderly o) {l₁ l₂ : List FallbackTask} {task : FallbackTask}
    (htasks : o.tasks = l₁ ++ task :: l₂) : o.rxServerClosed ≠ true := by
  intro hclosed
  rw [(h.closed hclosed).2.1] at htasks
  simp at htasks

theorem step (h : Orderly o) (hstep : OutboundStep o none o') : Orderly o' := by
  cases hstep with
  | @op op rest hops =>
      obtain ⟨hdropped, hclosed⟩ := h.alive hops
      exact ⟨fun hd => absurd hd (by simp [hdropped]), fun hc => absurd hc (by simp [hclosed])⟩
  | drop hops =>
      exact ⟨fun _ => hops, fun hc => ⟨(h.closed hc).1, (h.closed hc).2.1, rfl⟩⟩
  | claim htasks _ _ => exact { h with closed := fun hc => absurd hc (h.open_of_task htasks) }
  | push htasks _ => exact { h with closed := fun hc => absurd hc (h.open_of_task htasks) }
  | failed htasks _ => exact { h with closed := fun hc => absurd hc (h.open_of_task htasks) }
  | tryRecv _ hopen _ => exact { h with closed := fun hc => absurd hc (by simp [hopen]) }
  | recv _ hopen _ => exact { h with closed := fun hc => absurd hc (by simp [hopen]) }
  | disconnected _ _ hfifo hdropped htasks =>
      exact { h with closed := fun _ => ⟨hfifo, htasks, hdropped⟩ }
  | recvNone _ _ hfifo hdropped htasks =>
      exact { h with closed := fun _ => ⟨hfifo, htasks, hdropped⟩ }
  | refused _ => exact { h with closed := fun hc => ⟨rfl, (h.closed hc).2⟩ }
  | finished _ _ => exact { h with closed := fun hc => ⟨rfl, (h.closed hc).2⟩ }
  | writeError _ => exact { h with closed := fun hc => ⟨rfl, (h.closed hc).2⟩ }
  | authenticated _ => exact { h with }
  | takeTime _ _ => exact { h with }
  | noTime _ _ => exact { h with }
  | empty _ _ _ _ => exact { h with }
  | skipFifo _ _ => exact { h with }
  | takeUpdate _ _ => exact { h with }
  | noUpdate _ _ => exact { h with }
  | wakeTime _ _ _ => exact { h with }
  | wakeUpdates _ _ _ => exact { h with }
  | written _ => exact { h with }

end Outbound.Orderly

/-! ### Places -/

/-- A packet that was passed and takes a certain way. -/
def Numbered.Sent (calls : Nat → Call) (m : Numbered) (way : Way) (data : Bytes) : Prop :=
  (calls data.length).way = way ∧ data.length < m.next

/-- Every packet is where its way leads. -/
structure Numbered.Placed (calls : Nat → Call) (m : Numbered) : Prop where
  orderly : m.out.Orderly
  wire : ∀ data ∈ m.out.wire, data.length < m.next
  hand : ∀ data ∈ m.out.writer.hand, data.length < m.next
  fifo : ∀ data ∈ m.out.fifo, m.Sent calls .queue data
  tasks : ∀ task ∈ m.out.tasks, m.Sent calls .queue task.data
  time : ∀ data, m.out.latestServerTime = some data → m.Sent calls .time data
  updates : ∀ id data, m.out.latestObjectUpdates.packets.lookup id = some data →
    m.Sent calls (.live id) data
  /-- What is left of a call belongs to the last one. -/
  ops : m.out.ops = [] ∨
    ∃ n, m.next = n + 1 ∧ m.out.ops.IsSuffix ((calls n).ops (numeral n))

namespace Numbered.Placed

variable {calls : Nat → Call} {m m' : Numbered} {o : Outbound} {data : Bytes}

theorem new : Placed calls Numbered.new where
  orderly := .new
  wire := fun _ hd => by cases hd
  hand := fun _ hd => by cases hd
  fifo := fun _ hd => by cases hd
  tasks := fun _ hd => by cases hd
  time := fun _ hd => by cases hd
  updates := fun _ _ hd => by cases hd
  ops := Or.inl rfl

/-! ### The last call -/

/-- What is left of a call is the end of the last one's operations. -/
theorem last (h : Placed calls m) {op : Op} (hop : op ∈ m.out.ops) :
    ∃ n, m.next = n + 1 ∧ m.out.ops.IsSuffix ((calls n).ops (numeral n)) := by
  rcases h.ops with hnil | hlast
  · rw [hnil] at hop
    cases hop
  · exact hlast

/-- An operation of a call that sets the server time passes the last packet. -/
theorem of_replaceTime (h : Placed calls m) (hop : .replaceTime data ∈ m.out.ops) :
    m.next = data.length + 1 ∧ (calls data.length).way = .time := by
  obtain ⟨n, hnext, hsuffix⟩ := h.last hop
  have hmem := hsuffix.subset hop
  rw [(calls n).ops_eq] at hmem
  split at hmem
  · rename_i hway
    simp only [List.mem_cons, Op.replaceTime.injEq, List.not_mem_nil, or_false, reduceCtorEq] at hmem
    subst hmem
    simpa using ⟨hnext, hway⟩
  · simp at hmem
  · simp at hmem

theorem of_replaceUpdate (h : Placed calls m) {id : I32}
    (hop : .replaceUpdate id data ∈ m.out.ops) :
    m.next = data.length + 1 ∧ (calls data.length).way = .live id := by
  obtain ⟨n, hnext, hsuffix⟩ := h.last hop
  have hmem := hsuffix.subset hop
  rw [(calls n).ops_eq] at hmem
  split at hmem
  · simp at hmem
  · rename_i objectId hway
    simp only [List.mem_cons, Op.replaceUpdate.injEq, List.not_mem_nil, or_false,
      reduceCtorEq] at hmem
    obtain ⟨rfl, rfl⟩ := hmem
    simpa using ⟨hnext, hway⟩
  · simp at hmem

theorem of_trySend (h : Placed calls m) (hop : .trySend data ∈ m.out.ops) :
    m.next = data.length + 1 ∧ (calls data.length).way = .queue := by
  obtain ⟨n, hnext, hsuffix⟩ := h.last hop
  have hmem := hsuffix.subset hop
  rw [(calls n).ops_eq] at hmem
  split at hmem
  · simp at hmem
  · simp at hmem
  · rename_i hway
    simp only [List.mem_append, List.mem_map, reduceCtorEq, and_false, exists_false,
      List.mem_singleton, Op.trySend.injEq, false_or] at hmem
    subst hmem
    simpa using ⟨hnext, hway⟩

theorem of_removeUpdate (h : Placed calls m) {id : I32} (hop : .removeUpdate id ∈ m.out.ops) :
    ∃ n, m.next = n + 1 ∧ (calls n).way = .queue ∧ (calls n).ends = some id := by
  obtain ⟨n, hnext, hsuffix⟩ := h.last hop
  have hmem := hsuffix.subset hop
  rw [(calls n).ops_eq] at hmem
  split at hmem
  · simp at hmem
  · simp at hmem
  · rename_i hway
    refine ⟨n, hnext, hway, ?_⟩
    simpa using hmem

theorem sent_of_next (hnext : m.next = data.length + 1) {way : Way}
    (hway : (calls data.length).way = way) : m.Sent calls way data :=
  ⟨hway, by omega⟩

/-! ### Steps -/

/-- A call takes a new number. -/
theorem call (h : Placed calls m) (halive : m.out.dropped = false) :
    Placed calls { out := { m.out with ops := (calls m.next).ops (numeral m.next) }
                   next := m.next + 1 } where
  orderly := { h.orderly with quiet := fun hdropped => absurd hdropped (by simp [halive]) }
  wire := fun data hd => Nat.lt_succ_of_lt (h.wire data hd)
  hand := fun data hd => Nat.lt_succ_of_lt (h.hand data hd)
  fifo := fun data hd => ⟨(h.fifo data hd).1, Nat.lt_succ_of_lt (h.fifo data hd).2⟩
  tasks := fun task ht => ⟨(h.tasks task ht).1, Nat.lt_succ_of_lt (h.tasks task ht).2⟩
  time := fun data hd => ⟨(h.time data hd).1, Nat.lt_succ_of_lt (h.time data hd).2⟩
  updates := fun id data hd =>
    ⟨(h.updates id data hd).1, Nat.lt_succ_of_lt (h.updates id data hd).2⟩
  ops := Or.inr ⟨m.next, rfl, List.suffix_refl _⟩

/-- An operation is over. -/
theorem pop (h : Placed calls m) {op : Op} {rest : List Op} (hops : m.out.ops = op :: rest) :
    Placed calls { m with out := { m.out with ops := rest } } := by
  have hmem : op ∈ m.out.ops := by simp [hops]
  obtain ⟨n, hnext, hsuffix⟩ := h.last hmem
  obtain ⟨hdropped, -⟩ := h.orderly.alive hops
  refine { h with orderly := ?_, ops := Or.inr ⟨n, hnext, ?_⟩ }
  · exact { h.orderly with quiet := fun hd => absurd hd (by simp [hdropped]) }
  · rw [hops] at hsuffix
    exact (List.suffix_cons op rest).trans hsuffix

/-- What the slot holds after an operation. -/
theorem perform (h : Placed calls m) {op : Op} {rest : List Op} (hops : m.out.ops = op :: rest) :
    Placed calls { m with out := { m.out with ops := rest }.perform op } := by
  have hpop := h.pop hops
  have hmem : op ∈ m.out.ops := by simp [hops]
  obtain ⟨hdropped, hclosed⟩ := h.orderly.alive hops
  cases op with
  | replaceTime data =>
      obtain ⟨hnext, hway⟩ := h.of_replaceTime hmem
      refine { hpop with orderly := { hpop.orderly with }, time := fun d hd => ?_ }
      obtain rfl : data = d := Option.some.inj hd
      exact sent_of_next hnext hway
  | notifyTime => exact { hpop with orderly := { hpop.orderly with } }
  | removeUpdate id =>
      refine { hpop with orderly := { hpop.orderly with }, updates := fun k d hd => ?_ }
      have hlookup : (m.out.latestObjectUpdates.packets.erase id).lookup k = some d := hd
      rw [AList.lookup_erase'] at hlookup
      split at hlookup
      · cases hlookup
      · exact h.updates k d hlookup
  | replaceUpdate id data =>
      obtain ⟨hnext, hway⟩ := h.of_replaceUpdate hmem
      refine { hpop with orderly := { hpop.orderly with }, updates := fun k d hd => ?_ }
      have hlookup : (m.out.latestObjectUpdates.packets.insert id data).lookup k = some d := hd
      rw [AList.lookup_insert'] at hlookup
      split at hlookup
      · rename_i hk
        obtain rfl : data = d := Option.some.inj hlookup
        rw [hk]
        exact sent_of_next hnext hway
      · exact h.updates k d hlookup
  | notifyUpdates => exact { hpop with orderly := { hpop.orderly with } }
  | trySend data =>
      obtain ⟨hnext, hway⟩ := h.of_trySend hmem
      have hsent : m.Sent calls .queue data := sent_of_next hnext hway
      rcases Outbound.perform_trySend { m.out with ops := rest } data with
        ⟨_, heq⟩ | ⟨_, _, heq⟩ | ⟨_, _, heq⟩
      · rw [heq]
        exact hpop
      · rw [heq]
        refine { hpop with orderly := ?_, fifo := fun d hd => ?_ }
        · exact { hpop.orderly with closed := fun hc => absurd hc (by simp [hclosed]) }
        · rcases List.mem_append.mp hd with hd | hd
          · exact h.fifo d hd
          · obtain rfl := List.mem_singleton.mp hd
            exact hsent
      · rw [heq]
        refine { hpop with orderly := ?_, tasks := fun task ht => ?_ }
        · exact { hpop.orderly with closed := fun hc => absurd hc (by simp [hclosed]) }
        · rcases List.mem_append.mp ht with ht | ht
          · exact h.tasks task ht
          · obtain rfl := List.mem_singleton.mp ht
            exact hsent

/-- The writer stands somewhere else, and holds what it took from a place. -/
theorem turn (h : Placed calls m) {w : Writer} (hw : ∀ data ∈ w.hand, data.length < m.next) :
    Placed calls { m with out := { m.out with writer := w } } :=
  { h with orderly := { h.orderly with }, hand := hw }

/-- The writer stops, and the queue is gone. -/
theorem stop (h : Placed calls m) :
    Placed calls { m with out := { m.out with writer := .stopped, fifo := [] } } :=
  { h with
    orderly := { h.orderly with closed := fun hc => ⟨rfl, (h.orderly.closed hc).2⟩ }
    hand := fun _ hd => by cases hd
    fifo := fun _ hd => by cases hd }

/-- The writer takes the head of the queue. -/
theorem takeFifo (h : Placed calls m) {rest : List Bytes} (hfifo : m.out.fifo = data :: rest)
    (hopen : m.out.rxServerClosed = false) :
    Placed calls { m with out := { m.out with fifo := rest, writer := .writing data } } := by
  refine { h with orderly := ?_, hand := fun d hd => ?_, fifo := fun d hd => h.fifo d ?_ }
  · exact { h.orderly with closed := fun hc => absurd hc (by simp [hopen]) }
  · obtain rfl := List.mem_singleton.mp hd
    exact (h.fifo d (by simp [hfifo])).2
  · rw [hfifo]
    exact List.mem_cons_of_mem _ hd

/-- **One step keeps every packet in its place.** -/
theorem silent (h : Placed calls m) (hstep : OutboundStep m.out none o) :
    Placed calls { m with out := o } := by
  have horderly := h.orderly.step hstep
  have hidle : ∀ {w : Writer}, w.hand = [] → ∀ data ∈ w.hand, data.length < m.next := by
    intro w hw data hd
    rw [hw] at hd
    cases hd
  cases hstep with
  | op hops => exact h.perform hops
  | drop _ => exact { h with orderly := horderly }
  | @claim l₁ l₂ data htasks _ _ =>
      refine { h with orderly := horderly, tasks := fun task ht => ?_ }
      have hold := h.tasks
      rw [htasks] at hold
      rcases List.mem_append.mp ht with ht | ht
      · exact hold task (List.mem_append_left _ ht)
      · rcases List.mem_cons.mp ht with rfl | ht
        · exact hold { data, claimed := false } (by simp)
        · exact hold task (by simp [ht])
  | @push l₁ l₂ data htasks _ =>
      have hold := h.tasks
      rw [htasks] at hold
      refine { h with orderly := horderly, fifo := fun d hd => ?_, tasks := fun task ht => ?_ }
      · rcases List.mem_append.mp hd with hd | hd
        · exact h.fifo d hd
        · obtain rfl := List.mem_singleton.mp hd
          exact hold { data := d, claimed := true } (by simp)
      · rcases List.mem_append.mp ht with ht | ht
        · exact hold task (by simp [ht])
        · exact hold task (by simp [ht])
  | @failed l₁ l₂ task htasks _ =>
      refine { h with orderly := horderly, tasks := fun t ht => h.tasks t ?_ }
      rw [htasks]
      rcases List.mem_append.mp ht with ht | ht
      · simp [ht]
      · simp [ht]
  | authenticated _ => exact h.turn (hidle rfl)
  | refused _ => exact h.stop
  | @takeTime data _ htime =>
      refine { h with orderly := horderly, hand := fun d hd => ?_, time := fun _ hd => by cases hd }
      obtain rfl := List.mem_singleton.mp hd
      exact (h.time d htime).2
  | noTime _ _ => exact h.turn (hidle rfl)
  | tryRecv _ hopen hfifo => exact h.takeFifo hfifo hopen
  | empty _ _ _ _ => exact h.turn (hidle rfl)
  | disconnected _ _ _ _ _ => exact { h.turn (hidle rfl) with orderly := horderly }
  | skipFifo _ _ => exact h.turn (hidle rfl)
  | @takeUpdate data l _ htake =>
      obtain ⟨id, hfound, hl⟩ := LatestObjectUpdates.takeNext_some htake
      refine { h with orderly := horderly, hand := fun d hd => ?_, updates := fun k d hd => ?_ }
      · obtain rfl := List.mem_singleton.mp hd
        exact (h.updates id d hfound).2
      · have hlookup : l.packets.lookup k = some d := hd
        rw [hl, AList.lookup_erase'] at hlookup
        split at hlookup
        · cases hlookup
        · exact h.updates k d hlookup
  | @noUpdate l _ htake =>
      have hl := LatestObjectUpdates.takeNext_none htake
      refine { h with orderly := horderly, hand := hidle rfl, updates := fun k d hd => h.updates k d ?_ }
      rw [← hl]
      exact hd
  | finished _ _ => exact h.stop
  | wakeTime _ _ _ => exact { h.turn (hidle rfl) with orderly := horderly }
  | recv _ hopen hfifo => exact h.takeFifo hfifo hopen
  | recvNone _ _ _ _ _ => exact { h.turn (hidle rfl) with orderly := horderly }
  | wakeUpdates _ _ _ => exact { h.turn (hidle rfl) with orderly := horderly }
  | @written data hw =>
      refine { h with orderly := horderly, hand := hidle rfl, wire := fun d hd => ?_ }
      rcases List.mem_append.mp hd with hd | hd
      · exact h.wire d hd
      · refine h.hand d ?_
        rw [hw]
        exact hd
  | writeError _ => exact h.stop

theorem step (h : Placed calls m) {e : Option Call} (hstep : NumberedStep calls m e m') :
    Placed calls m' := by
  cases hstep with
  | call _ halive _ => exact h.call halive
  | silent hstep => exact h.silent hstep

end Numbered.Placed

/-- Packets are in their places in every state of a run. -/
theorem Numbered.placed {calls : Nat → Call} {m : Numbered} {tr : List (Option Call)}
    (h : Transition.Run (NumberedStep calls) Numbered.new tr m) : m.Placed calls :=
  h.invariant .new fun _ _ _ hstep hplaced => hplaced.step hstep

/-! ### What the writer takes -/

/-- The packets the writer has taken so far, the last of which it may still hold. -/
def Outbound.taken (o : Outbound) : List Bytes := o.wire ++ o.writer.hand

/-- What one silent step does to the packets the writer has taken. -/
inductive TakenMove (o o' : Outbound) : Prop
  | kept (htaken : o'.taken = o.taken)
  | takes {data : Bytes} (htaken : o'.taken = o.taken ++ [data]) (hhand : o.writer.hand = [])
      (hsource : o.latestServerTime = some data ∨ data ∈ o.fifo ∨
        o.writer = .slot ∧ ∃ id, o.latestObjectUpdates.packets.lookup id = some data)
  /-- The writer stops, and what it held is lost. -/
  | lost (htaken : o.taken = o'.taken ++ o.writer.hand) (hstopped : o'.writer = .stopped)

section

variable {o o' : Outbound} {data : Bytes}

theorem TakenMove.of_idle (hw : o.writer.hand = []) (hw' : o'.writer.hand = [])
    (hwire : o'.wire = o.wire) : TakenMove o o' :=
  .kept (by unfold Outbound.taken; rw [hw, hw', hwire])

theorem TakenMove.of_stop : TakenMove o { o with writer := .stopped, fifo := [] } :=
  .lost (by simp [Outbound.taken, Writer.hand]) rfl

theorem taken_of_take (hw : o.writer.hand = []) (hw' : o'.writer.hand = [data])
    (hwire : o'.wire = o.wire) : o'.taken = o.taken ++ [data] := by
  unfold Outbound.taken
  rw [hw, hw', hwire, List.append_nil]

/-- **A silent step takes at most one packet, from where it waits.** -/
theorem OutboundStep.takenMove (hstep : OutboundStep o none o') : TakenMove o o' := by
  have hidle : ∀ {w : Writer}, o.writer = w → w.hand = [] → o.writer.hand = [] := by
    intro w hw hhand
    rw [hw, hhand]
  cases hstep with
  | @op op rest hops => exact .kept (by simp [Outbound.taken])
  | drop _ => exact .kept rfl
  | claim _ _ _ => exact .kept rfl
  | push _ _ => exact .kept rfl
  | failed _ _ => exact .kept rfl
  | authenticated hw => exact .of_idle (hidle hw rfl) rfl rfl
  | refused _ => exact .of_stop
  | takeTime hw htime =>
      exact .takes (taken_of_take (hidle hw rfl) rfl rfl) (hidle hw rfl) (Or.inl htime)
  | noTime hw _ => exact .of_idle (hidle hw rfl) rfl rfl
  | tryRecv hw _ hfifo =>
      exact .takes (taken_of_take (hidle hw rfl) rfl rfl) (hidle hw rfl)
        (Or.inr (Or.inl (by simp [hfifo])))
  | empty hw _ _ _ => exact .of_idle (hidle hw rfl) rfl rfl
  | disconnected hw _ _ _ _ => exact .of_idle (hidle hw rfl) rfl rfl
  | skipFifo hw _ => exact .of_idle (hidle hw rfl) rfl rfl
  | takeUpdate hw htake =>
      obtain ⟨id, hfound, -⟩ := LatestObjectUpdates.takeNext_some htake
      exact .takes (taken_of_take (hidle hw rfl) rfl rfl) (hidle hw rfl)
        (Or.inr (Or.inr ⟨hw, id, hfound⟩))
  | noUpdate hw _ => exact .of_idle (hidle hw rfl) rfl rfl
  | finished _ _ => exact .of_stop
  | wakeTime hw _ _ => exact .of_idle (hidle hw rfl) rfl rfl
  | recv hw _ hfifo =>
      exact .takes (taken_of_take (hidle hw rfl) rfl rfl) (hidle hw rfl)
        (Or.inr (Or.inl (by simp [hfifo])))
  | recvNone hw _ _ _ _ => exact .of_idle (hidle hw rfl) rfl rfl
  | wakeUpdates hw _ _ => exact .of_idle (hidle hw rfl) rfl rfl
  | written hw =>
      refine .kept ?_
      unfold Outbound.taken
      rw [hw]
      simp [Writer.hand]
  | writeError _ => exact .of_stop

/-- An update in the slot was there before, or was put there by the step. -/
theorem OutboundStep.slot_origin (hstep : OutboundStep o none o') {id : I32}
    (hfound : o'.latestObjectUpdates.packets.lookup id = some data) :
    o.latestObjectUpdates.packets.lookup id = some data ∨ .replaceUpdate id data ∈ o.ops := by
  cases hstep with
  | @op op rest hops =>
      cases op with
      | removeUpdate k =>
          have hlookup : (o.latestObjectUpdates.packets.erase k).lookup id = some data := hfound
          rw [AList.lookup_erase'] at hlookup
          split at hlookup
          · cases hlookup
          · exact Or.inl hlookup
      | replaceUpdate k new =>
          have hlookup : (o.latestObjectUpdates.packets.insert k new).lookup id = some data := hfound
          rw [AList.lookup_insert'] at hlookup
          split at hlookup
          · rename_i hk
            obtain rfl : new = data := Option.some.inj hlookup
            exact Or.inr (by simp [hops, hk])
          · exact Or.inl hlookup
      | trySend new =>
          rcases Outbound.perform_trySend { o with ops := rest } new with
            ⟨_, heq⟩ | ⟨_, _, heq⟩ | ⟨_, _, heq⟩
          · exact Or.inl (by rw [heq] at hfound; exact hfound)
          · exact Or.inl (by rw [heq] at hfound; exact hfound)
          · exact Or.inl (by rw [heq] at hfound; exact hfound)
      | replaceTime _ => exact Or.inl hfound
      | notifyTime => exact Or.inl hfound
      | notifyUpdates => exact Or.inl hfound
  | takeUpdate _ htake =>
      obtain ⟨k, -, hl⟩ := LatestObjectUpdates.takeNext_some htake
      dsimp only at hfound
      rw [hl, AList.lookup_erase'] at hfound
      split at hfound
      · cases hfound
      · exact Or.inl hfound
  | noUpdate _ htake =>
      have hl := LatestObjectUpdates.takeNext_none htake
      dsimp only at hfound
      rw [hl] at hfound
      exact Or.inl hfound
  | _ => exact Or.inl hfound

end

end VangersSrv
