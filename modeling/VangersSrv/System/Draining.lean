/-
A way out comes to rest.

Between two calls the writer and the fallback tasks of a connection go on by themselves, and they
do not go on for ever.  The measure is

    weight(o) = 12 for each task, 11 if it has claimed room
              + 10 for each packet in the queue, id in the order of updates, server time,
                permit of a notify, and for a queue that was not found closed
              + where the writer stands

A packet that moves on loses at least one: from a task into the queue, out of the queue into the
writer's hands, and the writer itself falls from one place of its loop to the next, unless it has
found something, and that costs more than its way back to the top.  A state in which nothing can
move is at rest, and if no write failed all that was on its way is on the wire.
-/
import VangersSrv.Client.Wakeups
import VangersSrv.System.Tasks

namespace VangersSrv

/-! ### The measure -/

/-- Where the writer stands in its loop. -/
def Writer.place : Writer → Nat
  | .handshake => 6
  | .writing _ => 5
  | .time => 4
  | .fifo => 3
  | .slot => 2
  | .wait => 1
  | .stopped => 0

def FallbackTask.weight (task : FallbackTask) : Nat := if task.claimed then 11 else 12

namespace Outbound

/-- What is still to be done without a call. -/
def weight (o : Outbound) : Nat :=
  (o.tasks.map FallbackTask.weight).sum + 10 * o.fifo.length + 10 * o.latestObjectUpdates.order.length
    + (if o.latestServerTime = none then 0 else 10) + (if o.timeNotified then 10 else 0)
    + (if o.updatesNotified then 10 else 0) + (if o.rxServerClosed then 0 else 10) + o.writer.place

/-- Nothing is left to do: the writer sleeps or has left, and no task is left. -/
def AtRest (o : Outbound) : Prop := o.tasks = [] ∧ (o.Asleep ∨ o.writer = .stopped)

/-- A packet is on its way, or was written. -/
inductive Has (o : Outbound) (data : Bytes) : Prop
  | wire (h : data ∈ o.wire)
  | hand (h : o.writer = .writing data)
  | fifo (h : data ∈ o.fifo)
  | task {task : FallbackTask} (h : task ∈ o.tasks) (hdata : task.data = data)
  | time (h : o.latestServerTime = some data)
  | update {id : I32} (h : o.latestObjectUpdates.packets.lookup id = some data)

end Outbound

/-- The writer runs, and the server still holds the client. -/
structure Outbound.Live (o : Outbound) : Prop where
  notDropped : o.dropped = false
  notClosed : o.rxServerClosed = false
  started : o.writer ≠ .handshake
  running : o.writer ≠ .stopped

/-- A step of the writer or of a task in which no write fails. -/
structure DrainStep (o : Outbound) (e : Option Call) (o' : Outbound) : Prop where
  silent : e = none
  background : o.Background o'
  whole : o'.writer = .stopped → ∀ data, o.writer ≠ .writing data

section

variable {o o' : Outbound} {data : Bytes} {l l' : LatestObjectUpdates} {tr : List (Option Call)}

theorem LatestObjectUpdates.takeFrom_order {packets : AList fun _ : I32 => Bytes} {order : List I32}
    (h : takeFrom packets order = (some data, l')) : l'.order.length < order.length := by
  induction order with
  | nil => cases h
  | cons id rest ih =>
      unfold takeFrom at h
      split at h
      · obtain ⟨-, rfl⟩ := Prod.mk.inj h
        exact Nat.lt_succ_self _
      · exact Nat.lt_succ_of_lt (ih h)

theorem LatestObjectUpdates.takeFrom_none {packets : AList fun _ : I32 => Bytes} {order : List I32}
    (h : takeFrom packets order = (none, l')) : l'.order = [] := by
  induction order with
  | nil =>
      obtain ⟨-, rfl⟩ := Prod.mk.inj h
      rfl
  | cons id rest ih =>
      unfold takeFrom at h
      split at h
      · cases h
      · exact ih h

namespace Outbound

/-- **Every step lowers the weight.** -/
theorem Background.weight_lt (h : o.Background o') : o'.weight < o.weight := by
  have hops := h.ops
  have hdropped := h.dropped
  have hhandshake := h.handshake
  have hmoves := h.moves
  cases h.step with
  | @op op rest hnow =>
      rw [perform_ops, hnow] at hops
      exact absurd hops (by simp)
  | drop _ => exact absurd (congrArg (fun dropped => { o with dropped }) hdropped) hmoves
  | claim htasks _ _ => simp [weight, htasks, FallbackTask.weight]
  | push htasks _ => simp [weight, htasks, FallbackTask.weight]; omega
  | @failed l₁ l₂ task htasks _ =>
      have hweight : 0 < task.weight := by
        unfold FallbackTask.weight
        split <;> omega
      simp [weight, htasks]
      omega
  | authenticated hw => simp [hw] at hhandshake
  | refused hw => simp [hw] at hhandshake
  | takeTime hw htime => simp [weight, hw, htime, Writer.place]; omega
  | noTime hw _ => simp [weight, hw, Writer.place]
  | tryRecv hw _ hfifo => simp [weight, hw, hfifo, Writer.place]; omega
  | empty hw _ _ _ => simp [weight, hw, Writer.place]
  | disconnected hw hopen _ _ _ => simp [weight, hw, hopen, Writer.place]
  | skipFifo hw _ => simp [weight, hw, Writer.place]
  | takeUpdate hw htake =>
      have horder := LatestObjectUpdates.takeFrom_order htake
      simp [weight, hw, Writer.place]
      omega
  | noUpdate hw htake =>
      have horder := LatestObjectUpdates.takeFrom_none htake
      simp only [weight, hw, horder, List.length_nil, Writer.place]
      omega
  | finished hw _ => simp only [weight, hw, List.length_nil, Writer.place]; omega
  | wakeTime hw _ hnotified => simp [weight, hw, hnotified, Writer.place]; omega
  | recv hw _ hfifo => simp [weight, hw, hfifo, Writer.place]; omega
  | recvNone hw hopen _ _ _ => simp [weight, hw, hopen, Writer.place]
  | wakeUpdates hw _ hnotified => simp [weight, hw, hnotified, Writer.place]; omega
  | written hw => simp [weight, hw, Writer.place]
  | writeError hw => simp [weight, hw, Writer.place]; omega

/-! ### Only rest is stuck -/

/-- A step in which the writer goes on. -/
theorem Background.of_writer (hstep : OutboundStep o none o') (hops : o'.ops = o.ops)
    (hdropped : o'.dropped = o.dropped) (hw : o.writer ≠ .handshake) (hw' : o'.writer ≠ .handshake)
    (hmoves : o'.writer ≠ o.writer) : o.Background o' where
  step := hstep
  moves := fun hsame => hmoves (congrArg writer hsame)
  ops := hops
  dropped := hdropped
  handshake := by simp [hw, hw']

/-- A step of a task. -/
theorem Background.of_task (hstep : OutboundStep o none o') (hops : o'.ops = o.ops)
    (hdropped : o'.dropped = o.dropped) (hw : o'.writer = o.writer) (hmoves : o'.tasks ≠ o.tasks) :
    o.Background o' where
  step := hstep
  moves := fun hsame => hmoves (congrArg tasks hsame)
  ops := hops
  dropped := hdropped
  handshake := by rw [hw]

/-- With tasks left and an empty queue, one of them has claimed room or can claim some. -/
theorem exists_task_step (htasks : o.tasks ≠ []) (hfifo : o.fifo = []) (hw : o.writer ≠ .stopped) :
    ∃ o', o.Background o' ∧ o'.writer = o.writer := by
  by_cases hclaimed : ∃ task ∈ o.tasks, task.claimed = true
  · obtain ⟨task, hmem, htask⟩ := hclaimed
    obtain ⟨l₁, l₂, hsplit⟩ := List.append_of_mem hmem
    obtain ⟨data, claimed⟩ := task
    obtain rfl : claimed = true := htask
    refine ⟨_, .of_task (.push hsplit hw) rfl rfl rfl fun hsame => ?_, rfl⟩
    have hlength := congrArg List.length (hsame.trans hsplit)
    simp at hlength
  · obtain ⟨⟨data, claimed⟩, rest, hsplit⟩ := List.exists_cons_of_ne_nil htasks
    have hnone : claimed = false := by
      by_contra htask
      exact hclaimed ⟨⟨data, claimed⟩, hsplit ▸ List.mem_cons_self, by simpa using htask⟩
    have hroom : 0 < o.permits := by
      have hfilter : o.tasks.filter FallbackTask.claimed = [] :=
        List.filter_eq_nil_iff.mpr fun task htask hclaim => hclaimed ⟨task, htask, hclaim⟩
      simp [permits, hfifo, hfilter, queueSize]
    subst hnone
    have hfirst : o.tasks = [] ++ ⟨data, false⟩ :: rest := hsplit
    refine ⟨_, .of_task (.claim hfirst hroom hw) rfl rfl rfl fun hsame => ?_, rfl⟩
    have htask := hsame.trans hsplit
    simp at htask

/-- **Where nothing is at rest something can move**, and no write need fail. -/
theorem exists_drain (hstarted : o.writer ≠ .handshake) (hmoves : ¬ o.AtRest) :
    ∃ o', DrainStep o none o' := by
  have hgo : ∀ {o'}, OutboundStep o none o' → o'.ops = o.ops → o'.dropped = o.dropped →
      o'.writer ≠ .handshake → o'.writer ≠ o.writer →
      (o'.writer = .stopped → ∀ data, o.writer ≠ .writing data) → ∃ o', DrainStep o none o' :=
    fun hstep hops hdropped hw' hne hwhole =>
      ⟨_, rfl, .of_writer hstep hops hdropped hstarted hw' hne, hwhole⟩
  cases hw : o.writer with
  | handshake => exact absurd hw hstarted
  | writing data => exact hgo (.written hw) rfl rfl (by simp) (by simp [hw]) (by simp)
  | time =>
      cases htime : o.latestServerTime with
      | none => exact hgo (.noTime hw htime) rfl rfl (by simp) (by simp [hw]) (by simp)
      | some data => exact hgo (.takeTime hw htime) rfl rfl (by simp) (by simp [hw]) (by simp)
  | fifo =>
      cases hclosed : o.rxServerClosed with
      | true => exact hgo (.skipFifo hw hclosed) rfl rfl (by simp) (by simp [hw]) (by simp)
      | false =>
          cases hfifo : o.fifo with
          | cons data rest =>
              exact hgo (.tryRecv hw hclosed hfifo) rfl rfl (by simp) (by simp [hw]) (by simp)
          | nil =>
              by_cases hsenders : o.dropped = false ∨ o.tasks ≠ []
              · exact hgo (.empty hw hclosed hfifo hsenders) rfl rfl (by simp) (by simp [hw]) (by simp)
              · rw [not_or, Bool.not_eq_false, not_not] at hsenders
                exact hgo (.disconnected hw hclosed hfifo hsenders.1 hsenders.2) rfl rfl (by simp)
                  (by simp [hw]) (by simp)
  | slot =>
      cases htake : o.latestObjectUpdates.takeNext with
      | mk found left =>
          cases found with
          | none => exact hgo (.noUpdate hw htake) rfl rfl (by simp) (by simp [hw]) (by simp)
          | some data => exact hgo (.takeUpdate hw htake) rfl rfl (by simp) (by simp [hw]) (by simp)
  | wait =>
      cases hclosed : o.rxServerClosed with
      | true => exact hgo (.finished hw hclosed) rfl rfl (by simp) (by simp [hw]) (by simp [hw])
      | false =>
          cases htime : o.timeNotified with
          | true => exact hgo (.wakeTime hw hclosed htime) rfl rfl (by simp) (by simp [hw]) (by simp)
          | false =>
              cases hupdates : o.updatesNotified with
              | true =>
                  exact hgo (.wakeUpdates hw hclosed hupdates) rfl rfl (by simp) (by simp [hw]) (by simp)
              | false =>
                  cases hfifo : o.fifo with
                  | cons data rest =>
                      exact hgo (.recv hw hclosed hfifo) rfl rfl (by simp) (by simp [hw]) (by simp)
                  | nil =>
                      by_cases htasks : o.tasks = []
                      · cases hdropped : o.dropped with
                        | false =>
                            exact absurd ⟨htasks, .inl ⟨hw, hclosed, htime, hfifo, .inl hdropped, hupdates⟩⟩
                              hmoves
                        | true =>
                            exact hgo (.recvNone hw hclosed hfifo hdropped htasks) rfl rfl (by simp)
                              (by simp [hw]) (by simp)
                      · obtain ⟨o', hstep, hsame⟩ := exists_task_step htasks hfifo (by simp [hw])
                        exact ⟨o', rfl, hstep, by simp [hsame, hw]⟩
  | stopped =>
      cases htasks : o.tasks with
      | nil => exact absurd ⟨htasks, .inr hw⟩ hmoves
      | cons task rest =>
          have hfirst : o.tasks = [] ++ task :: rest := htasks
          refine ⟨_, rfl, .of_task (.failed hfirst hw) rfl rfl rfl ?_, by simp [hw]⟩
          simp [htasks]

/-- At rest nothing moves. -/
theorem AtRest.stuck (h : o.AtRest) : ¬ o.Background o' := by
  intro hstep
  obtain ⟨htasks, hend⟩ := h
  have hops := hstep.ops
  have hdropped := hstep.dropped
  have hmoves := hstep.moves
  have hstopped : o.writer = .wait ∨ o.writer = .stopped := hend.imp_left Asleep.waits
  cases hstep.step with
  | @op op rest hnow =>
      rw [perform_ops, hnow] at hops
      exact absurd hops (by simp)
  | drop _ => exact hmoves (congrArg (fun dropped => { o with dropped }) hdropped)
  | claim hsplit _ _ => simp [htasks] at hsplit
  | push hsplit _ => simp [htasks] at hsplit
  | failed hsplit _ => simp [htasks] at hsplit
  | finished hw hclosed =>
      rcases hend with hasleep | hw'
      · simp [hasleep.notClosed] at hclosed
      · simp [hw] at hw'
  | wakeTime hw _ hnotified =>
      rcases hend with hasleep | hw'
      · simp [hasleep.time] at hnotified
      · simp [hw] at hw'
  | recv hw _ hfifo =>
      rcases hend with hasleep | hw'
      · simp [hasleep.fifo] at hfifo
      · simp [hw] at hw'
  | recvNone hw _ _ hgone _ =>
      rcases hend with hasleep | hw'
      · simpa [hgone, htasks] using hasleep.senders
      · simp [hw] at hw'
  | wakeUpdates hw _ hnotified =>
      rcases hend with hasleep | hw'
      · simp [hasleep.updates] at hnotified
      · simp [hw] at hw'
  | authenticated hw => simp [hw] at hstopped
  | refused hw => simp [hw] at hstopped
  | takeTime hw _ => simp [hw] at hstopped
  | noTime hw _ => simp [hw] at hstopped
  | tryRecv hw _ _ => simp [hw] at hstopped
  | empty hw _ _ _ => simp [hw] at hstopped
  | disconnected hw _ _ _ _ => simp [hw] at hstopped
  | skipFifo hw _ => simp [hw] at hstopped
  | takeUpdate hw _ => simp [hw] at hstopped
  | noUpdate hw _ => simp [hw] at hstopped
  | written hw => simp [hw] at hstopped
  | writeError hw => simp [hw] at hstopped

end Outbound

/-! ### Nothing is lost on the way -/

namespace DrainStep

variable {e : Option Call}

theorem live (h : DrainStep o e o') (hlive : o.Live) : o'.Live where
  notDropped := h.background.dropped.trans hlive.notDropped
  notClosed := by
    have hopen := hlive.notClosed
    cases h.background.step with
    | op _ => simpa using hopen
    | disconnected _ _ _ hdropped _ => simp [hlive.notDropped] at hdropped
    | recvNone _ _ _ hdropped _ => simp [hlive.notDropped] at hdropped
    | _ => exact hopen
  started := fun hw => hlive.started (h.background.handshake.mp hw)
  running := fun hstopped => by
    have hwhole := h.whole hstopped
    have hrunning := hlive.running
    have hhandshake := hlive.started
    cases h.background.step with
    | op _ => exact hrunning (by simpa using hstopped)
    | drop _ => exact hrunning hstopped
    | claim _ _ _ => exact hrunning hstopped
    | push _ _ => exact hrunning hstopped
    | failed _ _ => exact hrunning hstopped
    | refused hw => exact hhandshake hw
    | finished _ hclosed => simp [hlive.notClosed] at hclosed
    | writeError hw => exact hwhole _ hw
    | _ => cases hstopped

end DrainStep

/-- What moves no packet. -/
theorem Outbound.Has.keep (h : o.Has data) (hhand : ∀ d, o.writer ≠ .writing d)
    (hwire : o'.wire = o.wire) (hfifo : o'.fifo = o.fifo) (htasks : o'.tasks = o.tasks)
    (htime : o'.latestServerTime = o.latestServerTime)
    (hupdates : o'.latestObjectUpdates.packets = o.latestObjectUpdates.packets) : o'.Has data := by
  cases h with
  | wire hd => exact .wire (hwire ▸ hd)
  | hand hd => exact absurd hd (hhand data)
  | fifo hd => exact .fifo (hfifo ▸ hd)
  | task hd hsame => exact .task (htasks ▸ hd) hsame
  | time hd => exact .time (htime.trans hd)
  | update hd => exact .update (hupdates ▸ hd)

/-- The writer takes the head of the queue. -/
theorem Outbound.Has.takeFifo {first : Bytes} {rest : List Bytes} (h : o.Has data)
    (hhand : ∀ d, o.writer ≠ .writing d) (hfifo : o.fifo = first :: rest) :
    Outbound.Has { o with fifo := rest, writer := .writing first } data := by
  cases h with
  | wire hd => exact .wire hd
  | hand hd => exact absurd hd (hhand data)
  | task hd hsame => exact .task hd hsame
  | time hd => exact .time hd
  | update hd => exact .update hd
  | fifo hd =>
      rw [hfifo] at hd
      rcases List.mem_cons.mp hd with rfl | hd
      · exact .hand rfl
      · exact .fifo hd

/-- **What is on its way stays on its way** until it is written. -/
theorem DrainStep.has {e : Option Call} (h : DrainStep o e o') (hlive : o.Live) (hdata : o.Has data) :
    o'.Has data := by
  have hwhole := h.whole
  cases h.background.step with
  | op hnow =>
      have hops := h.background.ops
      rw [Outbound.perform_ops, hnow] at hops
      exact absurd hops (by simp)
  | drop _ => exact absurd h.background.dropped (by simp [hlive.notDropped])
  | @claim l₁ l₂ waiting htasks _ _ => cases hdata with
    | wire hd => exact .wire hd
    | hand hd => exact .hand hd
    | fifo hd => exact .fifo hd
    | time hd => exact .time hd
    | update hd => exact .update hd
    | task hd hsame =>
        rw [htasks, List.mem_append, List.mem_cons] at hd
        rcases hd with hd | rfl | hd
        · exact .task (List.mem_append_left _ hd) hsame
        · exact .task (List.mem_append_right _ List.mem_cons_self) hsame
        · exact .task (List.mem_append_right _ (List.mem_cons_of_mem _ hd)) hsame
  | @push l₁ l₂ waiting htasks _ => cases hdata with
    | wire hd => exact .wire hd
    | hand hd => exact .hand hd
    | fifo hd => exact .fifo (List.mem_append_left _ hd)
    | time hd => exact .time hd
    | update hd => exact .update hd
    | task hd hsame =>
        rw [htasks, List.mem_append, List.mem_cons] at hd
        rcases hd with hd | rfl | hd
        · exact .task (List.mem_append_left _ hd) hsame
        · obtain rfl : waiting = data := hsame
          exact .fifo (List.mem_append_right _ List.mem_cons_self)
        · exact .task (List.mem_append_right _ hd) hsame
  | failed _ hclosed => exact absurd hclosed hlive.running
  | authenticated hw => exact absurd hw hlive.started
  | refused hw => exact absurd hw hlive.started
  | takeTime hw htime => cases hdata with
    | wire hd => exact .wire hd
    | hand hd => simp [hw] at hd
    | fifo hd => exact .fifo hd
    | task hd hsame => exact .task hd hsame
    | update hd => exact .update hd
    | time hd =>
        rw [htime, Option.some.injEq] at hd
        exact .hand (by rw [hd])
  | noTime hw _ => exact hdata.keep (by simp [hw]) rfl rfl rfl rfl rfl
  | tryRecv hw _ hfifo => exact hdata.takeFifo (by simp [hw]) hfifo
  | empty hw _ _ _ => exact hdata.keep (by simp [hw]) rfl rfl rfl rfl rfl
  | disconnected hw _ _ _ _ => exact hdata.keep (by simp [hw]) rfl rfl rfl rfl rfl
  | skipFifo hw _ => exact hdata.keep (by simp [hw]) rfl rfl rfl rfl rfl
  | @takeUpdate taken l hw htake =>
      obtain ⟨id, hfound, hleft⟩ := LatestObjectUpdates.takeNext_some htake
      cases hdata with
      | wire hd => exact .wire hd
      | hand hd => simp [hw] at hd
      | fifo hd => exact .fifo hd
      | task hd hsame => exact .task hd hsame
      | time hd => exact .time hd
      | @update k hd =>
          by_cases hk : k = id
          · rw [hk, hfound, Option.some.injEq] at hd
            exact .hand (by rw [hd])
          · have hstays : l.packets.lookup k = some data := by
              rw [hleft, AList.lookup_erase_ne hk]
              exact hd
            exact .update hstays
  | noUpdate hw htake =>
      exact hdata.keep (by simp [hw]) rfl rfl rfl rfl (LatestObjectUpdates.takeNext_none htake)
  | finished _ hclosed => simp [hlive.notClosed] at hclosed
  | wakeTime hw _ _ => exact hdata.keep (by simp [hw]) rfl rfl rfl rfl rfl
  | recv hw _ hfifo => exact hdata.takeFifo (by simp [hw]) hfifo
  | recvNone hw _ _ _ _ => exact hdata.keep (by simp [hw]) rfl rfl rfl rfl rfl
  | wakeUpdates hw _ _ => exact hdata.keep (by simp [hw]) rfl rfl rfl rfl rfl
  | @written held hw => cases hdata with
    | wire hd => exact .wire (List.mem_append_left _ hd)
    | fifo hd => exact .fifo hd
    | task hd hsame => exact .task hd hsame
    | time hd => exact .time hd
    | update hd => exact .update hd
    | hand hd =>
        rw [hw, Writer.writing.injEq] at hd
        exact .wire (by simp [hd])
  | writeError hw => exact absurd hw (hwhole rfl _)

/-! ### Rest -/

/-- **A connection whose writer runs can come to rest**, with no write that fails. -/
theorem Outbound.Live.exists_rest (hlive : o.Live) :
    ∃ t o', Transition.Run DrainStep o t o' ∧ o'.AtRest ∧ o'.Live ∧ o'.ops = o.ops ∧
      ∀ data, o.Has data → o'.Has data := by
  obtain ⟨t, o', hrun, hrest⟩ : ∃ t o', Transition.Run DrainStep o t o' ∧ o'.AtRest := by
    refine Transition.Run.exists_rest (μ := Outbound.weight) (P := Outbound.Live)
      (fun _ _ _ hstep => hstep.background.weight_lt) (fun _ _ _ hstep hbefore => hstep.live hbefore)
      (fun a ha hmoves => ?_) o hlive
    obtain ⟨b, hstep⟩ := Outbound.exists_drain ha.started hmoves
    exact ⟨none, b, hstep⟩
  refine ⟨t, o', hrun, hrest, ?_⟩
  refine hrun.invariant (P := fun a => a.Live ∧ a.ops = o.ops ∧ ∀ data, o.Has data → a.Has data)
    ⟨hlive, rfl, fun _ => id⟩ fun a e b hstep ⟨ha, hops, hhas⟩ => ?_
  exact ⟨hstep.live ha, hstep.background.ops.trans hops, fun data hdata => hstep.has ha (hhas data hdata)⟩

/-- At rest a writer that runs sleeps. -/
theorem Outbound.AtRest.asleep (h : o.AtRest) (hlive : o.Live) : o.Asleep :=
  h.2.resolve_right hlive.running

/-- What a way out that sleeps has is written. -/
theorem Outbound.Has.written (hdata : o.Has data) (h : Transition.Run OutboundStep Outbound.new tr o)
    (hasleep : o.Asleep) (hidle : o.ops = []) (htasks : o.tasks = []) : data ∈ o.wire := by
  obtain ⟨htime, hupdates⟩ := hasleep.idle h hidle
  cases hdata with
  | wire hd => exact hd
  | hand hd => simp [hasleep.waits] at hd
  | fifo hd => simp [hasleep.fifo] at hd
  | task hd _ => simp [htasks] at hd
  | time hd => simp [htime] at hd
  | update hd => simp [hupdates] at hd

/-- **A way out comes to rest.**  Between two calls the writer and the tasks take no more steps
than the weight says, and they are stuck only at rest.  For a client that the server still holds
there is a way to rest on which no write fails, and then all that was on its way is written. -/
theorem comes_to_rest (h : Transition.Run OutboundStep Outbound.new tr o) :
    (∀ (t : List Unit) (o' : Outbound), Transition.Run (fun a _ b => a.Background b) o t o' →
      t.length ≤ o.weight) ∧
    (o.writer ≠ .handshake → ((∀ o', ¬ o.Background o') ↔ o.AtRest)) ∧
    (o.Live → o.ops = [] → ∃ t o', Transition.Run DrainStep o t o' ∧
      Transition.Run OutboundStep Outbound.new (tr ++ t) o' ∧ o'.AtRest ∧ o'.Live ∧ o'.ops = [] ∧
      ∀ data, o.Has data → data ∈ o'.wire) := by
  refine ⟨fun t o' hrun => ?_, fun hstarted => ⟨fun hstuck => ?_, fun hrest _ => hrest.stuck⟩, ?_⟩
  · have hlength := hrun.length_le (μ := Outbound.weight) fun a _ b hstep => hstep.weight_lt
    omega
  · by_contra hmoves
    obtain ⟨o', hstep⟩ := Outbound.exists_drain hstarted hmoves
    exact hstuck o' hstep.background
  · intro hlive hidle
    obtain ⟨t, o', hrun, hrest, hlive', hops, hhas⟩ := hlive.exists_rest
    have hwhole := h.append (hrun.mono fun a e b hstep => hstep.silent ▸ hstep.background.step)
    exact ⟨t, o', hrun, hwhole, hrest, hlive', hops.trans hidle, fun data hdata =>
      (hhas data hdata).written hwhole (hrest.asleep hlive') (hops.trans hidle) hrest.1⟩

/-- A server time that was passed is written when the writer comes to rest. -/
theorem comes_to_rest_time : ∃ tr o t o' data, Transition.Run OutboundStep Outbound.new tr o ∧
    serverTime.asBytes = some data ∧ o.Live ∧ Transition.Run DrainStep o t o' ∧ data ∈ o'.wire := by
  obtain ⟨data, hdata⟩ := Option.isSome_iff_exists.mp (show serverTime.asBytes.isSome by decide)
  have hrun := (Transition.Run.nil : Transition.Run OutboundStep Outbound.new [] Outbound.new)
    |>.snoc (.authenticated rfl)
    |>.snoc (.call rfl rfl hdata : OutboundStep _ (some (.send serverTime)) _)
    |>.snoc (.op rfl)
    |>.snoc (.op rfl)
  obtain ⟨tr, o, hrun, hlive, hidle, htime⟩ : ∃ tr o, Transition.Run OutboundStep Outbound.new tr o ∧
      o.Live ∧ o.ops = [] ∧ o.latestServerTime = some data :=
    ⟨_, _, hrun, ⟨rfl, rfl, nofun, nofun⟩, rfl, rfl⟩
  obtain ⟨t, o', hrest, -, -, -, -, hwritten⟩ := (comes_to_rest hrun).2.2 hlive hidle
  exact ⟨tr, o, t, o', data, hrun, hdata, hlive, hrest, hwritten data (.time htime)⟩

end

end VangersSrv
