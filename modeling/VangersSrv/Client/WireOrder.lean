/-
The order of an object's updates on the wire.

Updates of one object take two ways, the queue and the slot, and the writer empties the
queue first.  So an update that is queued while an older one waits in the slot overtakes it,
and so does one that is not held up in a fallback task when an older one is.  Where neither is
passed, everything on its way stands in one line: what is written, what the writer holds, the
queue, the tasks, the slot and the call being made (`InLine`).
-/
import VangersSrv.Client.Outbound

namespace VangersSrv

/-! ### Updates of an object -/

/-- The object whose update the bytes of a packet are. -/
def updateId (data : Bytes) : Option I32 :=
  if data[2]? = some Action.updateObject.toU8 then sliceLeToI32 ((data.drop 3).take 4) else none

/-- The updates of an object among packets. -/
def updatesOf (id : I32) (l : List Bytes) : List Bytes :=
  l.filter fun data => updateId data = some id

/-- The updates of every object are on the wire in the order in which they were passed. -/
def NoRegression (tr : List (Option Call)) (o : Outbound) : Prop :=
  ∀ id, (updatesOf id o.wire).Sublist (updatesOf id (passed tr))

/-- What a call has to find for the update it passes to stay in line: no older update of the
object in a fallback task, none in the slot when the new one is queued, and none in the queue
behind the writer's back when the new one goes to the slot. -/
def Call.InOrder (o : Outbound) (call : Call) : Prop :=
  ∀ id data, call.packet.asBytes = some data → updateId data = some id →
    (∀ task ∈ o.tasks, updateId task.data ≠ some id) ∧
      match call with
      | .send _ => o.latestObjectUpdates.packets.lookup id = none
      | .sendRealtimeUpdate packet =>
        if packet.action = .updateObject then
          o.writer = .slot → ∀ data ∈ o.fifo, updateId data ≠ some id
        else o.latestObjectUpdates.packets.lookup id = none

/-- A step that is no call, or a call that finds its update in line. -/
def OrderedStep (o : Outbound) (e : Option Call) (o' : Outbound) : Prop :=
  OutboundStep o e o' ∧ ∀ call, e = some call → call.InOrder o

section

variable {id : I32} {l l' : List Bytes} {data : Bytes} {packet : Packet} {o o' : Outbound}
  {p : List Bytes}

@[simp] theorem updatesOf_nil : updatesOf id [] = [] := rfl

@[simp] theorem updatesOf_append : updatesOf id (l ++ l') = updatesOf id l ++ updatesOf id l' :=
  List.filter_append ..

theorem updatesOf_cons : updatesOf id (data :: l) = updatesOf id [data] ++ updatesOf id l :=
  updatesOf_append (l := [data])

theorem updatesOf_singleton (h : updateId data = some id) : updatesOf id [data] = [data] := by
  simp [updatesOf, h]

theorem updatesOf_singleton_nil (h : updateId data ≠ some id) : updatesOf id [data] = [] := by
  simp [updatesOf, h]

theorem updatesOf_eq_nil : updatesOf id l = [] ↔ ∀ data ∈ l, updateId data ≠ some id := by
  simp [updatesOf]

/-! ### The bytes of a packet -/

theorem asBytes_updateId (h : packet.asBytes = some data) :
    updateId data =
      if packet.actionByte = Action.updateObject.toU8 then sliceLeToI32 (packet.data.take 4)
      else none := by
  unfold Packet.asBytes at h
  dsimp only at h
  split at h
  · cases h
    have hlen : (LittleEndian.ofNat 2 (1 + packet.data.length)).length = 2 := by simp
    obtain ⟨a, b, hab⟩ := List.length_eq_two.mp hlen
    rw [hab]
    simp [updateId]
  · cases h

/-- An update carries its object's id in front. -/
theorem updateId_of_update (h : packet.asBytes = some data) (haction : packet.action = .updateObject) :
    updateId data = packetObjectId packet := by
  rw [asBytes_updateId h]
  have hbyte : packet.actionByte = Action.updateObject.toU8 := by
    simp [Packet.actionByte, haction]
  rw [if_pos hbyte]
  unfold packetObjectId sliceLeToI32
  split
  · rename_i hlen
    rw [List.length_take] at hlen
    rw [if_neg (by omega)]
  · rename_i hlen
    rw [List.length_take] at hlen
    rw [if_pos (by omega)]

/-- A server time is no update. -/
theorem updateId_of_serverTime (h : packet.asBytes = some data)
    (haction : packet.action = .serverTime) : updateId data = none := by
  rw [asBytes_updateId h, if_neg]
  simp [Packet.actionByte, haction]
  decide

end

/-! ### Everything on its way in one line -/

/-- What an operation carries. -/
def Op.carries : Op → List Bytes
  | .trySend data => [data]
  | .replaceUpdate _ data => [data]
  | _ => []

/-- The bytes the fallback tasks hold. -/
def Outbound.held (o : Outbound) : List Bytes := o.tasks.map FallbackTask.data

/-- The bytes the call being made has still to place. -/
def Outbound.called (o : Outbound) : List Bytes := o.ops.flatMap Op.carries

/-- What the slot holds for an object. -/
def Outbound.pending (o : Outbound) (id : I32) : List Bytes :=
  (o.latestObjectUpdates.packets.lookup id).toList

/-- The updates of an object on their way, in the order in which they will be written. -/
def Outbound.line (o : Outbound) (id : I32) : List Bytes :=
  updatesOf id o.wire ++ (updatesOf id o.writer.hand ++ (updatesOf id o.fifo ++
    (updatesOf id o.held ++ (o.pending id ++ updatesOf id o.called))))

/-- Nothing on its way is out of its place. -/
structure InLine (id : I32) (p : List Bytes) (o : Outbound) : Prop where
  order : (o.line id).Sublist (updatesOf id p)
  /-- At most one update waits in a task, and then none does in the slot or in a call. -/
  oneTask : (updatesOf id o.held).length ≤ 1
  taskAlone : updatesOf id o.held ≠ [] → o.pending id = [] ∧ updatesOf id o.called = []
  /-- What waits in the slot, or is about to, is not taken in front of the queue. -/
  slotBehind : o.pending id ≠ [] ∨ (∃ data, Op.replaceUpdate id data ∈ o.ops) →
    updatesOf id o.fifo ≠ [] → o.writer ≠ .slot
  /-- A call that queues an update finds the slot empty. -/
  sendAlone : ∀ data, Op.trySend data ∈ o.ops → updateId data = some id → o.pending id = []
  oneOp : o.called.length ≤ 1
  slotKeyed : ∀ j data, o.latestObjectUpdates.packets.lookup j = some data → updateId data = some j
  opKeyed : ∀ j data, Op.replaceUpdate j data ∈ o.ops → updateId data = some j
  time : ∀ data, o.latestServerTime = some data → updateId data = none
  opTime : ∀ data, Op.replaceTime data ∈ o.ops → updateId data = none
  /-- A client that was dropped is not called on. -/
  quiet : o.dropped = true → o.ops = []
  /-- A queue that was found closed stays empty. -/
  closed : o.rxServerClosed = true → o.fifo = [] ∧ o.tasks = [] ∧ o.dropped = true

section

variable {id : I32} {data : Bytes} {o o' : Outbound} {p : List Bytes} {call : Call}

/-! ### Calls -/

/-- The three ways a packet takes. -/
theorem Call.ops_cases (hdata : call.packet.asBytes = some data) :
    (call.ops data = [.replaceTime data, .notifyTime] ∧ updateId data = none) ∨
    (∃ objectId, call.ops data = [.replaceUpdate objectId data, .notifyUpdates] ∧
      updateId data = some objectId ∧
      (call.InOrder o → o.writer = .slot → updatesOf objectId o.fifo = [])) ∨
    ∃ removed : List I32, call.ops data = removed.map Op.removeUpdate ++ [.trySend data] ∧
      ∀ id, call.InOrder o → updateId data = some id → o.pending id = [] := by
  have hreliable : ∀ packet, ∃ removed : List I32,
      sendReliable packet data = removed.map Op.removeUpdate ++ [.trySend data] := by
    intro packet
    unfold sendReliable
    split
    · exact ⟨(packetObjectId packet).toList, rfl⟩
    · exact ⟨[], rfl⟩
  have hsend : ∀ packet : Packet, packet.asBytes = some data →
      (VangersSrv.send packet data = [.replaceTime data, .notifyTime] ∧ updateId data = none) ∨
        ∃ removed : List I32,
          VangersSrv.send packet data = removed.map Op.removeUpdate ++ [.trySend data] := by
    intro packet hbytes
    unfold VangersSrv.send
    split
    · rename_i htime
      exact Or.inl ⟨rfl, updateId_of_serverTime hbytes htime⟩
    · exact Or.inr (hreliable packet)
  cases call with
  | send packet =>
      rcases hsend packet hdata with htime | ⟨removed, hops⟩
      · exact Or.inl htime
      · refine Or.inr (Or.inr ⟨removed, hops, fun id horder hid => ?_⟩)
        have hnone := (horder id data hdata hid).2
        dsimp only at hnone
        simp [Outbound.pending, hnone]
  | sendRealtimeUpdate packet =>
      by_cases haction : packet.action = .updateObject
      · cases hid : packetObjectId packet with
        | some objectId =>
            have hupdate := (updateId_of_update hdata haction).trans hid
            refine Or.inr (Or.inl ⟨objectId, ?_, hupdate, fun horder hw => ?_⟩)
            · simp [Call.ops, VangersSrv.sendRealtimeUpdate, haction, hid]
            · have hfree := (horder objectId data hdata hupdate).2
              dsimp only at hfree
              rw [if_pos haction] at hfree
              exact updatesOf_eq_nil.mpr (hfree hw)
        | none =>
            obtain ⟨removed, hops⟩ := hreliable packet
            refine Or.inr (Or.inr ⟨removed, ?_, fun id _ hupdate => ?_⟩)
            · simp [Call.ops, VangersSrv.sendRealtimeUpdate, haction, hid, hops]
            · rw [(updateId_of_update hdata haction).trans hid] at hupdate
              cases hupdate
      · have hops : (Call.sendRealtimeUpdate packet).ops data = VangersSrv.send packet data := by
          simp [Call.ops, VangersSrv.sendRealtimeUpdate, haction]
        rw [hops]
        rcases hsend packet hdata with htime | ⟨removed, hsent⟩
        · exact Or.inl htime
        · refine Or.inr (Or.inr ⟨removed, hsent, fun id horder hid => ?_⟩)
          have hnone := (horder id data hdata hid).2
          dsimp only at hnone
          rw [if_neg haction] at hnone
          simp [Outbound.pending, hnone]

namespace InLine

theorem passes (h : InLine id p o) (hidle : o.ops = []) (halive : o.dropped = false)
    (hdata : call.packet.asBytes = some data) (horder : call.InOrder o) :
    InLine id (p ++ [data]) { o with ops := call.ops data } := by
  have hclosed : o.rxServerClosed ≠ true := by
    intro hclosed
    rw [(h.closed hclosed).2.2] at halive
    cases halive
  -- the call carries its packet, unless that is a server time
  have hcalled : updatesOf id ((call.ops data).flatMap Op.carries) = updatesOf id [data] ∧
      ((call.ops data).flatMap Op.carries).length ≤ 1 := by
    rcases Call.ops_cases (o := o) hdata with ⟨hops, hnone⟩ | ⟨_, hops, -⟩ | ⟨removed, hops, -⟩
    · rw [hops, updatesOf_singleton_nil (by simp [hnone])]
      exact ⟨rfl, by simp [Op.carries]⟩
    · rw [hops]
      exact ⟨rfl, by simp [Op.carries]⟩
    · have hremoved : (removed.map Op.removeUpdate).flatMap Op.carries = [] := by
        simp [List.flatMap_eq_nil_iff, Op.carries]
      rw [hops, List.flatMap_append, hremoved]
      exact ⟨rfl, by simp [Op.carries]⟩
  have htasks : updateId data = some id → updatesOf id o.held = [] := by
    intro hid
    refine updatesOf_eq_nil.mpr fun d hd => ?_
    obtain ⟨task, htask, rfl⟩ := List.mem_map.mp hd
    exact (horder id data hdata hid).1 task htask
  refine { h with order := ?_, taskAlone := ?_, slotBehind := ?_, sendAlone := ?_, oneOp := hcalled.2
                  opKeyed := ?_, opTime := ?_, quiet := fun hd => absurd hd (by simp [halive])
                  closed := fun hc => absurd hc hclosed }
  · have hold := h.order
    simp only [Outbound.line, Outbound.held, Outbound.pending, Outbound.called, hidle,
      List.flatMap_nil, updatesOf_nil, List.append_nil] at hold
    simp only [Outbound.line, Outbound.held, Outbound.pending, Outbound.called, hcalled.1,
      updatesOf_append]
    simpa only [List.append_assoc] using hold.append (List.Sublist.refl (updatesOf id [data]))
  · intro hheld
    refine ⟨(h.taskAlone hheld).1, ?_⟩
    show updatesOf id ((call.ops data).flatMap Op.carries) = []
    rw [hcalled.1]
    exact updatesOf_singleton_nil fun hid => hheld (htasks hid)
  · rintro (hpending | ⟨d, hd⟩) hfifo
    · exact h.slotBehind (Or.inl hpending) hfifo
    · intro hw
      rcases Call.ops_cases (o := o) hdata with ⟨hops, -⟩ | ⟨objectId, hops, -, hfree⟩ | ⟨removed, hops, -⟩
      · simp [hops] at hd
      · simp only [hops, List.mem_cons, Op.replaceUpdate.injEq, List.not_mem_nil, or_false,
          reduceCtorEq] at hd
        obtain ⟨rfl, -⟩ := hd
        exact hfifo (hfree horder hw)
      · simp [hops] at hd
  · intro d hd hid
    rcases Call.ops_cases (o := o) hdata with ⟨hops, -⟩ | ⟨objectId, hops, -, -⟩ | ⟨removed, hops, hfree⟩
    · simp [hops] at hd
    · simp [hops] at hd
    · simp only [hops, List.mem_append, List.mem_map, List.mem_singleton, reduceCtorEq, and_false,
        exists_false, Op.trySend.injEq, false_or] at hd
      subst hd
      exact hfree id horder hid
  · intro j d hd
    rcases Call.ops_cases (o := o) hdata with ⟨hops, -⟩ | ⟨objectId, hops, hkey, -⟩ | ⟨removed, hops, -⟩
    · simp [hops] at hd
    · simp only [hops, List.mem_cons, Op.replaceUpdate.injEq, List.not_mem_nil, or_false,
        reduceCtorEq] at hd
      obtain ⟨rfl, rfl⟩ := hd
      exact hkey
    · simp [hops] at hd
  · intro d hd
    rcases Call.ops_cases (o := o) hdata with ⟨hops, hnone⟩ | ⟨objectId, hops, -, -⟩ | ⟨removed, hops, -⟩
    · simp only [hops, List.mem_cons, Op.replaceTime.injEq, List.not_mem_nil, or_false,
        reduceCtorEq] at hd
      subst hd
      exact hnone
    · simp [hops] at hd
    · simp [hops] at hd

/-! ### The operations of a call -/

/-- A line that lost something is still in order. -/
theorem shrink (h : InLine id p o) (hline : (o'.line id).Sublist (o.line id)) :
    (o'.line id).Sublist (updatesOf id p) :=
  hline.trans h.order

/-- An operation is over, and what it carried is gone. -/
theorem pop (h : InLine id p o) {op : Op} {rest : List Op} (hops : o.ops = op :: rest) :
    InLine id p { o with ops := rest } := by
  have hmem : ∀ {x}, x ∈ rest → x ∈ o.ops := fun hx => by
    rw [hops]
    exact List.mem_cons_of_mem _ hx
  have hcalled : (rest.flatMap Op.carries).Sublist o.called := by
    simp only [Outbound.called, hops, List.flatMap_cons]
    exact List.sublist_append_right _ _
  refine { h with order := ?_, taskAlone := ?_, slotBehind := ?_, sendAlone := ?_, oneOp := ?_
                  opKeyed := ?_, opTime := ?_, quiet := ?_ }
  · refine h.shrink ?_
    have hsub : (updatesOf id (rest.flatMap Op.carries)).Sublist (updatesOf id o.called) :=
      hcalled.filter _
    simp only [Outbound.line, Outbound.held, Outbound.pending, Outbound.called,
      List.append_sublist_append_left]
    exact hsub
  · intro hheld
    obtain ⟨hpending, hnone⟩ := h.taskAlone hheld
    refine ⟨hpending, ?_⟩
    have hsub : (updatesOf id (rest.flatMap Op.carries)).Sublist (updatesOf id o.called) :=
      hcalled.filter _
    rw [hnone] at hsub
    exact List.sublist_nil.mp hsub
  · rintro (hpending | ⟨d, hd⟩)
    · exact h.slotBehind (Or.inl hpending)
    · exact h.slotBehind (Or.inr ⟨d, hmem hd⟩)
  · exact fun d hd => h.sendAlone d (hmem hd)
  · exact hcalled.length_le.trans h.oneOp
  · exact fun j d hd => h.opKeyed j d (hmem hd)
  · exact fun d hd => h.opTime d (hmem hd)
  · intro hdropped
    rw [h.quiet hdropped] at hops
    cases hops

/-- A call carries one packet, so after it is placed nothing is left of the call. -/
theorem rest_carries (h : InLine id p o) {op : Op} {rest : List Op} (hops : o.ops = op :: rest)
    (hop : op.carries = [data]) : rest.flatMap Op.carries = [] := by
  have hlen := h.oneOp
  rw [Outbound.called, hops, List.flatMap_cons, hop, List.length_append, List.length_singleton] at hlen
  exact List.length_eq_zero_iff.mp (by omega)

/-- A queue that is still called on was not found closed. -/
theorem not_closed (h : InLine id p o) {op : Op} {rest : List Op} (hops : o.ops = op :: rest) :
    o.rxServerClosed ≠ true := by
  intro hclosed
  rw [h.quiet (h.closed hclosed).2.2] at hops
  cases hops

/-- The update of an object in the slot is dropped. -/
theorem removeUpdate (h : InLine id p o) (j : I32) :
    InLine id p { o with latestObjectUpdates := o.latestObjectUpdates.remove j } := by
  have hlookup : ∀ k, (o.latestObjectUpdates.remove j).packets.lookup k
      = if k = j then none else o.latestObjectUpdates.packets.lookup k :=
    fun k => AList.lookup_erase' j k
  have hpending : ((o.latestObjectUpdates.remove j).packets.lookup id).toList.Sublist
      (o.pending id) := by
    rw [hlookup]
    split
    · exact List.nil_sublist _
    · exact List.Sublist.refl _
  have hnil : o.pending id = [] → ((o.latestObjectUpdates.remove j).packets.lookup id).toList = [] := by
    intro hnone
    rw [hnone] at hpending
    exact List.sublist_nil.mp hpending
  refine { h with order := ?_, taskAlone := ?_, slotBehind := ?_, sendAlone := ?_, slotKeyed := ?_ }
  · refine h.shrink ?_
    simp only [Outbound.line, Outbound.held, Outbound.pending, Outbound.called,
      List.append_sublist_append_left]
    exact hpending.append (List.Sublist.refl _)
  · exact fun hheld => ⟨hnil (h.taskAlone hheld).1, (h.taskAlone hheld).2⟩
  · rintro (hne | hop)
    · exact h.slotBehind (Or.inl fun hnone => hne (hnil hnone))
    · exact h.slotBehind (Or.inr hop)
  · exact fun d hd hid => hnil (h.sendAlone d hd hid)
  · intro k d hk
    rw [hlookup] at hk
    split at hk
    · cases hk
    · exact h.slotKeyed k d hk

/-- A live update takes its object's place in the slot. -/
theorem replaceUpdate (h : InLine id p o) {j : I32} {rest : List Op}
    (hops : o.ops = .replaceUpdate j data :: rest) :
    InLine id p { o with ops := rest
                         latestObjectUpdates := o.latestObjectUpdates.replace j data } := by
  have hpop := h.pop hops
  have hkey : updateId data = some j := h.opKeyed j data (by simp [hops])
  have hlookup : ∀ k, (o.latestObjectUpdates.replace j data).packets.lookup k
      = if k = j then some data else o.latestObjectUpdates.packets.lookup k :=
    fun k => AList.lookup_insert' j k data
  have hkeyed : ∀ k d, (o.latestObjectUpdates.replace j data).packets.lookup k = some d →
      updateId d = some k := by
    intro k d hk
    rw [hlookup] at hk
    split at hk
    · rename_i hkj
      cases hk
      rw [hkj]
      exact hkey
    · exact h.slotKeyed k d hk
  by_cases hj : id = j
  · subst hj
    -- the call carried the update, so no task holds one and nothing else is carried
    have hcarried : updatesOf id o.called = data :: updatesOf id (rest.flatMap Op.carries) := by
      simp only [Outbound.called, hops, List.flatMap_cons, Op.carries]
      rw [updatesOf_append, updatesOf_singleton hkey]
      rfl
    have hheld : updatesOf id o.held = [] := by
      by_contra hheld
      rw [(h.taskAlone hheld).2] at hcarried
      cases hcarried
    have hrest : rest.flatMap Op.carries = [] := h.rest_carries hops rfl
    refine { hpop with order := ?_, taskAlone := ?_, slotBehind := ?_, sendAlone := ?_
                       slotKeyed := hkeyed }
    · refine h.shrink ?_
      have hnew : updatesOf id (o.ops.flatMap Op.carries)
          = data :: updatesOf id (rest.flatMap Op.carries) := hcarried
      simp only [Outbound.line, Outbound.held, Outbound.pending, Outbound.called, hlookup, hnew,
        if_true, Option.toList_some, List.append_sublist_append_left]
      exact List.sublist_append_right _ _
    · exact fun hne => absurd hheld hne
    · exact fun _ => h.slotBehind (Or.inr ⟨data, by simp [hops]⟩)
    · intro d hd
      have hmem : d ∈ rest.flatMap Op.carries :=
        List.mem_flatMap.mpr ⟨_, hd, by simp [Op.carries]⟩
      rw [hrest] at hmem
      cases hmem
  · have hpending : ((o.latestObjectUpdates.replace j data).packets.lookup id).toList
        = o.pending id := by
      rw [hlookup, if_neg hj]
      rfl
    refine { hpop with order := ?_, taskAlone := ?_, slotBehind := ?_, sendAlone := ?_
                       slotKeyed := hkeyed }
    · have horder := hpop.order
      simp only [Outbound.line, Outbound.pending] at horder ⊢
      rw [hpending]
      exact horder
    · intro hheld
      exact ⟨hpending.trans (hpop.taskAlone hheld).1, (hpop.taskAlone hheld).2⟩
    · rintro (hne | hop)
      · exact hpop.slotBehind (Or.inl fun hnone => hne (hpending.trans hnone))
      · exact hpop.slotBehind (Or.inr hop)
    · exact fun d hd hid => hpending.trans (hpop.sendAlone d hd hid)

/-- Where the queue has room, a packet goes to its end. -/
theorem queued (h : InLine id p o) {rest : List Op} (hops : o.ops = .trySend data :: rest) :
    InLine id p { o with ops := rest, fifo := o.fifo ++ [data] } := by
  have hpop := h.pop hops
  have hclosed := h.not_closed hops
  have hrest : rest.flatMap Op.carries = [] := h.rest_carries hops rfl
  have hcarried : o.called = data :: rest.flatMap Op.carries := by
    simp [Outbound.called, hops, Op.carries]
  by_cases hid : updateId data = some id
  · -- an update is queued only when no task holds one and the slot is empty
    have hpending : o.pending id = [] := h.sendAlone data (by simp [hops]) hid
    have hheld : updatesOf id o.held = [] := by
      by_contra hheld
      have hnone := (h.taskAlone hheld).2
      rw [hcarried, updatesOf_cons, updatesOf_singleton hid] at hnone
      cases hnone
    refine { hpop with order := ?_, slotBehind := ?_, closed := fun hc => absurd hc hclosed }
    · have horder := h.order
      rw [Outbound.line, hpending, hheld, hcarried, updatesOf_cons] at horder
      simp only [Outbound.line, Outbound.held, Outbound.pending, Outbound.called] at hheld hpending ⊢
      rw [hpending, hheld, updatesOf_append]
      simpa only [List.append_assoc, List.nil_append] using horder
    · rintro (hne | ⟨d, hd⟩)
      · exact absurd hpending hne
      · have hmem : d ∈ rest.flatMap Op.carries :=
          List.mem_flatMap.mpr ⟨_, hd, by simp [Op.carries]⟩
        rw [hrest] at hmem
        cases hmem
  · have hsame : updatesOf id (o.fifo ++ [data]) = updatesOf id o.fifo := by
      rw [updatesOf_append, updatesOf_singleton_nil hid, List.append_nil]
    refine { hpop with order := ?_, slotBehind := ?_, closed := fun hc => absurd hc hclosed }
    · have horder := hpop.order
      simp only [Outbound.line] at horder ⊢
      rw [hsame]
      exact horder
    · intro hslot hfifo
      exact hpop.slotBehind hslot (hsame ▸ hfifo)

/-- Where the queue is full, a task takes the packet. -/
theorem spawned (h : InLine id p o) {rest : List Op} (hops : o.ops = .trySend data :: rest) :
    InLine id p { o with ops := rest, tasks := o.tasks ++ [{ data, claimed := false }] } := by
  have hpop := h.pop hops
  have hclosed := h.not_closed hops
  have hrest : rest.flatMap Op.carries = [] := h.rest_carries hops rfl
  have hcarried : o.called = data :: rest.flatMap Op.carries := by
    simp [Outbound.called, hops, Op.carries]
  have hheld : updatesOf id (List.map FallbackTask.data (o.tasks ++ [⟨data, false⟩]))
      = updatesOf id o.held ++ updatesOf id [data] := by
    rw [List.map_append, updatesOf_append]
    rfl
  by_cases hid : updateId data = some id
  · have hpending : o.pending id = [] := h.sendAlone data (by simp [hops]) hid
    have hnone : updatesOf id o.held = [] := by
      by_contra hheld
      have hnone := (h.taskAlone hheld).2
      rw [hcarried, updatesOf_cons, updatesOf_singleton hid] at hnone
      cases hnone
    refine { hpop with order := ?_, oneTask := ?_, taskAlone := ?_
                       closed := fun hc => absurd hc hclosed }
    · have horder := h.order
      rw [Outbound.line, hpending, hnone, hcarried, hrest] at horder
      simp only [Outbound.line, Outbound.held, Outbound.pending, Outbound.called] at hnone hpending hheld ⊢
      rw [hheld, hpending, hnone, hrest]
      simpa only [List.nil_append, List.append_nil, updatesOf_nil] using horder
    · show (updatesOf id (List.map _ _)).length ≤ 1
      rw [hheld, hnone, updatesOf_singleton hid]
      simp
    · intro _
      refine ⟨hpending, ?_⟩
      show updatesOf id (rest.flatMap Op.carries) = []
      rw [hrest]
      rfl
  · have hsame : updatesOf id (List.map FallbackTask.data (o.tasks ++ [⟨data, false⟩]))
        = updatesOf id o.held := by
      rw [hheld, updatesOf_singleton_nil hid, List.append_nil]
    refine { hpop with order := ?_, oneTask := ?_, taskAlone := ?_
                       closed := fun hc => absurd hc hclosed }
    · have horder := hpop.order
      simp only [Outbound.line, Outbound.held] at horder hsame ⊢
      rw [hsame]
      exact horder
    · show (updatesOf id (List.map _ _)).length ≤ 1
      rw [hsame]
      exact h.oneTask
    · intro hne
      exact hpop.taskAlone (hsame ▸ hne)

theorem perform (h : InLine id p o) {op : Op} {rest : List Op} (hops : o.ops = op :: rest) :
    InLine id p ({ o with ops := rest }.perform op) := by
  have hpop := h.pop hops
  cases op with
  | replaceTime data =>
      have hnone : updateId data = none := h.opTime data (by simp [hops])
      exact { hpop with time := fun d hd => by rw [← Option.some.inj hd]; exact hnone }
  | notifyTime => exact { hpop with }
  | removeUpdate j => exact hpop.removeUpdate j
  | replaceUpdate j data => exact h.replaceUpdate hops
  | notifyUpdates => exact { hpop with }
  | trySend data =>
      unfold Outbound.perform
      dsimp only
      split
      · exact hpop
      · split
        · exact h.queued hops
        · exact h.spawned hops

/-! ### The fallback tasks -/

theorem claim (h : InLine id p o) {l₁ l₂ : List FallbackTask}
    (htasks : o.tasks = l₁ ++ { data, claimed := false } :: l₂) :
    InLine id p { o with tasks := l₁ ++ { data, claimed := true } :: l₂ } := by
  have hheld : List.map FallbackTask.data (l₁ ++ ⟨data, true⟩ :: l₂) = o.held := by
    simp [Outbound.held, htasks]
  refine { h with order := ?_, oneTask := ?_, taskAlone := ?_, closed := ?_ }
  · have horder := h.order
    simp only [Outbound.line] at horder ⊢
    rw [show Outbound.held { o with tasks := l₁ ++ { data, claimed := true } :: l₂ } = o.held from hheld]
    exact horder
  · show (updatesOf id (List.map _ _)).length ≤ 1
    rw [hheld]
    exact h.oneTask
  · intro hne
    exact h.taskAlone (hheld ▸ hne)
  · intro hclosed
    rw [(h.closed hclosed).2.1] at htasks
    simp at htasks

/-- What a task held is gone. -/
theorem taskGone (h : InLine id p o) {l₁ l₂ : List FallbackTask} {task : FallbackTask}
    (htasks : o.tasks = l₁ ++ task :: l₂) : InLine id p { o with tasks := l₁ ++ l₂ } := by
  have hsub : (updatesOf id ((l₁ ++ l₂).map FallbackTask.data)).Sublist (updatesOf id o.held) := by
    refine List.Sublist.filter _ ?_
    rw [Outbound.held, htasks]
    exact ((List.append_sublist_append_left l₁).mpr (List.sublist_cons_self task l₂)).map _
  refine { h with order := ?_, oneTask := ?_, taskAlone := ?_, closed := ?_ }
  · refine h.shrink ?_
    simp only [Outbound.line, Outbound.held, Outbound.pending, Outbound.called,
      List.append_sublist_append_left]
    exact hsub.append (List.Sublist.refl _)
  · exact hsub.length_le.trans h.oneTask
  · intro hne
    refine h.taskAlone fun hnone => hne ?_
    rw [hnone] at hsub
    exact List.sublist_nil.mp hsub
  · intro hclosed
    rw [(h.closed hclosed).2.1] at htasks
    simp at htasks

/-- A task queues what it held. -/
theorem push (h : InLine id p o) {l₁ l₂ : List FallbackTask} {claimed : Bool}
    (htasks : o.tasks = l₁ ++ { data, claimed } :: l₂) :
    InLine id p { o with tasks := l₁ ++ l₂, fifo := o.fifo ++ [data] } := by
  have hgone := h.taskGone htasks
  have hclosed : o.rxServerClosed ≠ true := by
    intro hclosed
    rw [(h.closed hclosed).2.1] at htasks
    simp at htasks
  have hheld : updatesOf id o.held = updatesOf id (l₁.map FallbackTask.data) ++
      (updatesOf id [data] ++ updatesOf id (l₂.map FallbackTask.data)) := by
    rw [← updatesOf_append, ← updatesOf_append, Outbound.held, htasks]
    simp
  by_cases hid : updateId data = some id
  · -- it was the only one, and nothing of the object waits behind it
    rw [updatesOf_singleton hid] at hheld
    have hone := h.oneTask
    rw [hheld] at hone
    simp only [List.length_append, List.length_singleton] at hone
    have h₁ : updatesOf id (l₁.map FallbackTask.data) = [] :=
      List.length_eq_zero_iff.mp (by omega)
    have h₂ : updatesOf id (l₂.map FallbackTask.data) = [] :=
      List.length_eq_zero_iff.mp (by omega)
    obtain ⟨hpending, hcalled⟩ := h.taskAlone (by rw [hheld]; simp)
    refine { hgone with order := ?_, slotBehind := ?_, closed := fun hc => absurd hc hclosed }
    · have horder := h.order
      rw [Outbound.line, hheld, h₁, h₂] at horder
      simp only [Outbound.line, Outbound.held, List.map_append, updatesOf_append, h₁, h₂,
        updatesOf_singleton hid, List.nil_append, List.append_assoc] at horder ⊢
      exact horder
    · rintro (hne | ⟨d, hd⟩)
      · exact absurd hpending hne
      · have hkey : updateId d = some id := h.opKeyed id d hd
        have hmem : d ∈ updatesOf id o.called := by
          refine List.mem_filter.mpr ⟨List.mem_flatMap.mpr ⟨_, hd, by simp [Op.carries]⟩, ?_⟩
          simp [hkey]
        rw [hcalled] at hmem
        cases hmem
  · have hsame : updatesOf id (o.fifo ++ [data]) = updatesOf id o.fifo := by
      rw [updatesOf_append, updatesOf_singleton_nil hid, List.append_nil]
    refine { hgone with order := ?_, slotBehind := ?_, closed := fun hc => absurd hc hclosed }
    · have horder := hgone.order
      simp only [Outbound.line] at horder ⊢
      rw [hsame]
      exact horder
    · intro hslot hfifo
      exact hgone.slotBehind hslot (hsame ▸ hfifo)

/-! ### The writer -/

/-- The writer moves on with empty hands. -/
theorem goto (h : InLine id p o) {w : Writer} (hold : o.writer.hand = []) (hnew : w.hand = [])
    (hslot : w = .slot → updatesOf id o.fifo = []) : InLine id p { o with writer := w } := by
  refine { h with order := ?_, slotBehind := fun _ hfifo hw => hfifo (hslot hw) }
  have horder := h.order
  simp only [Outbound.line, Outbound.held, Outbound.pending, Outbound.called] at horder ⊢
  rw [hold] at horder
  rw [hnew]
  exact horder

/-- The writer stops, and the queue and what it holds are gone. -/
theorem stop (h : InLine id p o) : InLine id p { o with writer := .stopped, fifo := [] } := by
  refine { h with order := ?_, slotBehind := fun _ hfifo => absurd rfl hfifo
                  closed := fun hclosed => ⟨rfl, (h.closed hclosed).2⟩ }
  refine h.shrink ?_
  simp only [Outbound.line, Outbound.held, Outbound.pending, Outbound.called, Writer.hand,
    updatesOf_nil, List.nil_append, List.append_sublist_append_left]
  exact ((List.sublist_append_right _ _).trans (List.sublist_append_right _ _))

/-- What was in the writer's hands is on the wire. -/
theorem written (h : InLine id p o) (hw : o.writer = .writing data) :
    InLine id p { o with wire := o.wire ++ [data], writer := .time } := by
  refine { h with order := ?_, slotBehind := fun _ _ => by simp }
  have horder := h.order
  simp only [Outbound.line, Outbound.held, Outbound.pending, Outbound.called, hw,
    Writer.hand] at horder ⊢
  rw [updatesOf_append, updatesOf_nil]
  simpa only [List.append_assoc, List.nil_append] using horder

/-- The writer takes the server time. -/
theorem takeTime (h : InLine id p o) (hw : o.writer.hand = [])
    (htime : o.latestServerTime = some data) :
    InLine id p { o with latestServerTime := none, writer := .writing data } := by
  refine { h with order := ?_, slotBehind := fun _ _ => by simp, time := fun _ hd => by cases hd }
  have horder := h.order
  have hnone : updatesOf id [data] = [] :=
    updatesOf_singleton_nil (by simp [h.time data htime])
  simp only [Outbound.line, Outbound.held, Outbound.pending, Outbound.called, hw,
    updatesOf_nil] at horder ⊢
  rw [Writer.hand, hnone]
  exact horder

/-- The writer takes the head of the queue. -/
theorem takeFifo (h : InLine id p o) {rest : List Bytes} (hw : o.writer.hand = [])
    (hfifo : o.fifo = data :: rest) :
    InLine id p { o with fifo := rest, writer := .writing data } := by
  refine { h with order := ?_, slotBehind := fun _ _ => by simp, closed := ?_ }
  · have horder := h.order
    simp only [Outbound.line, Outbound.held, Outbound.pending, Outbound.called, hw, hfifo,
      updatesOf_nil, List.nil_append] at horder ⊢
    rw [updatesOf_cons] at horder
    simpa only [Writer.hand, List.append_assoc] using horder
  · intro hclosed
    rw [(h.closed hclosed).1] at hfifo
    cases hfifo

/-- The writer takes an update from the slot: none of its object is in the queue then. -/
theorem takeUpdate (h : InLine id p o) {l : LatestObjectUpdates} (hw : o.writer = .slot)
    (htake : o.latestObjectUpdates.takeNext = (some data, l)) :
    InLine id p { o with latestObjectUpdates := l, writer := .writing data } := by
  obtain ⟨j, hfound, hl⟩ := LatestObjectUpdates.takeNext_some htake
  have hkey : updateId data = some j := h.slotKeyed j data hfound
  have hlookup : ∀ k, l.packets.lookup k
      = if k = j then none else o.latestObjectUpdates.packets.lookup k := by
    intro k
    rw [hl]
    exact AList.lookup_erase' j k
  have hkeyed : ∀ k d, l.packets.lookup k = some d → updateId d = some k := by
    intro k d hk
    rw [hlookup] at hk
    split at hk
    · cases hk
    · exact h.slotKeyed k d hk
  by_cases hj : id = j
  · subst hj
    have hpending : o.pending id = [data] := by simp [Outbound.pending, hfound]
    have hfifo : updatesOf id o.fifo = [] := by
      by_contra hfifo
      exact h.slotBehind (Or.inl (by simp [hpending])) hfifo hw
    have hheld : updatesOf id o.held = [] := by
      by_contra hheld
      rw [(h.taskAlone hheld).1] at hpending
      cases hpending
    refine { h with order := ?_, taskAlone := fun hne => absurd hheld hne
                    slotBehind := fun _ _ => by simp, sendAlone := ?_, slotKeyed := hkeyed }
    · have horder := h.order
      rw [Outbound.line, hw, hpending, hfifo, hheld] at horder
      simp only [Outbound.line, Outbound.held, Outbound.pending, Outbound.called] at hheld ⊢
      rw [hfifo, hheld, hlookup, if_pos rfl, Writer.hand, updatesOf_singleton hkey]
      exact horder
    · intro d _ _
      simp [Outbound.pending, hlookup]
  · have hpending : l.packets.lookup id = o.latestObjectUpdates.packets.lookup id := by
      rw [hlookup, if_neg hj]
    have hother : updatesOf id [data] = [] :=
      updatesOf_singleton_nil (by rw [hkey]; exact fun heq => hj (Option.some.inj heq).symm)
    refine { h with order := ?_, taskAlone := ?_, slotBehind := fun _ _ => by simp
                    sendAlone := ?_, slotKeyed := hkeyed }
    · have horder := h.order
      simp only [Outbound.line, Outbound.held, Outbound.pending, Outbound.called, hw,
        Writer.hand] at horder ⊢
      rw [hpending, hother]
      exact horder
    · intro hheld
      simp only [Outbound.pending, hpending]
      exact h.taskAlone hheld
    · intro d hd hid
      simp only [Outbound.pending, hpending]
      exact h.sendAlone d hd hid

/-- The slot is as it was when nothing is found in it. -/
theorem noUpdate (h : InLine id p o) {l : LatestObjectUpdates}
    (htake : o.latestObjectUpdates.takeNext = (none, l)) :
    InLine id p { o with latestObjectUpdates := l } := by
  have hl := LatestObjectUpdates.takeNext_none htake
  have hpending : ({ o with latestObjectUpdates := l } : Outbound).pending id = o.pending id := by
    simp [Outbound.pending, hl]
  refine { h with order := ?_, taskAlone := ?_, slotBehind := ?_, sendAlone := ?_
                  slotKeyed := by rw [hl]; exact h.slotKeyed }
  · have horder := h.order
    simp only [Outbound.line] at horder ⊢
    rw [hpending]
    exact horder
  · rw [hpending]
    exact h.taskAlone
  · rw [hpending]
    exact h.slotBehind
  · rw [hpending]
    exact h.sendAlone

/-- The server is gone and the queue is empty. -/
theorem close (h : InLine id p o) (hfifo : o.fifo = []) (htasks : o.tasks = [])
    (hdropped : o.dropped = true) : InLine id p { o with rxServerClosed := true } :=
  { h with closed := fun _ => ⟨hfifo, htasks, hdropped⟩ }

/-! ### Runs -/

theorem new (id : I32) : InLine id [] Outbound.new where
  order := List.Sublist.refl _
  oneTask := Nat.zero_le 1
  taskAlone := fun hne => absurd rfl hne
  slotBehind := fun _ hne => absurd rfl hne
  sendAlone := fun _ hd => by cases hd
  oneOp := Nat.zero_le 1
  slotKeyed := fun _ _ hd => by cases hd
  opKeyed := fun _ _ hd => by cases hd
  time := fun _ hd => by cases hd
  opTime := fun _ hd => by cases hd
  quiet := fun _ => rfl
  closed := fun hc => by cases hc

/-- What was passed so far grows with a call only. -/
theorem step {e : Option Call} (h : InLine id p o) (hstep : OrderedStep o e o') :
    InLine id (p ++ passed [e]) o' := by
  obtain ⟨hstep, horder⟩ := hstep
  have hsilent : p ++ passed [none] = p := List.append_nil p
  cases hstep with
  | @call call data hidle halive hdata =>
      have hpassed : passed [some call] = [data] := by simp [passed, hdata]
      rw [hpassed]
      exact h.passes hidle halive hdata (horder call rfl)
  | op hops =>
      rw [hsilent]
      exact h.perform hops
  | drop hidle =>
      rw [hsilent]
      exact { h with quiet := fun _ => hidle
                     closed := fun hc => ⟨(h.closed hc).1, (h.closed hc).2.1, rfl⟩ }
  | claim htasks _ _ =>
      rw [hsilent]
      exact h.claim htasks
  | push htasks _ =>
      rw [hsilent]
      exact h.push htasks
  | failed htasks _ =>
      rw [hsilent]
      exact h.taskGone htasks
  | authenticated hw =>
      rw [hsilent]
      exact h.goto (by simp [hw, Writer.hand]) rfl (by simp)
  | refused _ =>
      rw [hsilent]
      exact h.stop
  | takeTime hw htime =>
      rw [hsilent]
      exact h.takeTime (by simp [hw, Writer.hand]) htime
  | noTime hw _ =>
      rw [hsilent]
      exact h.goto (by simp [hw, Writer.hand]) rfl (by simp)
  | tryRecv hw _ hfifo =>
      rw [hsilent]
      exact h.takeFifo (by simp [hw, Writer.hand]) hfifo
  | empty hw _ hfifo _ =>
      rw [hsilent]
      exact h.goto (by simp [hw, Writer.hand]) rfl fun _ => by
        rw [hfifo]
        rfl
  | disconnected hw _ hfifo hdropped htasks =>
      rw [hsilent]
      have hmoved : InLine id p { o with writer := .slot } :=
        h.goto (by simp [hw, Writer.hand]) rfl fun _ => by
          rw [hfifo]
          rfl
      exact hmoved.close hfifo htasks hdropped
  | skipFifo hw hclosed =>
      rw [hsilent]
      exact h.goto (by simp [hw, Writer.hand]) rfl fun _ => by
        rw [(h.closed hclosed).1]
        rfl
  | takeUpdate hw htake =>
      rw [hsilent]
      exact h.takeUpdate hw htake
  | noUpdate hw htake =>
      rw [hsilent]
      exact (h.noUpdate htake).goto (by simp [hw, Writer.hand]) rfl (by simp)
  | finished _ _ =>
      rw [hsilent]
      exact h.stop
  | wakeTime hw _ _ =>
      rw [hsilent]
      have hmoved : InLine id p { o with writer := .time } :=
        h.goto (by simp [hw, Writer.hand]) rfl (by simp)
      exact { hmoved with }
  | recv hw _ hfifo =>
      rw [hsilent]
      exact h.takeFifo (by simp [hw, Writer.hand]) hfifo
  | recvNone hw _ hfifo hdropped htasks =>
      rw [hsilent]
      have hmoved : InLine id p { o with writer := .time } :=
        h.goto (by simp [hw, Writer.hand]) rfl (by simp)
      exact hmoved.close hfifo htasks hdropped
  | wakeUpdates hw _ _ =>
      rw [hsilent]
      have hmoved : InLine id p { o with writer := .time } :=
        h.goto (by simp [hw, Writer.hand]) rfl (by simp)
      exact { hmoved with }
  | written hw =>
      rw [hsilent]
      exact h.written hw
  | writeError _ =>
      rw [hsilent]
      exact h.stop

theorem run {tr : List (Option Call)} (h : Transition.Run OrderedStep Outbound.new tr o) :
    InLine id (passed tr) o := by
  refine h.history (P := fun tr o => InLine id (passed tr) o) (InLine.new id) ?_
  intro tr o e o' _ hstep hline
  have hpassed : passed (tr ++ [e]) = passed tr ++ passed [e] := List.filterMap_append ..
  rw [hpassed]
  exact hline.step hstep

end InLine

/-! ### The order on the wire -/

/-- **Where every call finds its update in line, the updates of every object are on the wire in
the order in which they were passed.** -/
theorem wire_order {tr : List (Option Call)} (h : Transition.Run OrderedStep Outbound.new tr o) :
    NoRegression tr o := by
  intro id
  have hline : InLine id (passed tr) o := InLine.run h
  exact (List.sublist_append_left _ _).trans hline.order

end

theorem OutboundStep.silent {o o' : Outbound} (h : OutboundStep o none o') :
    OrderedStep o none o' :=
  ⟨h, fun _ hcall => by cases hcall⟩

theorem OutboundStep.inOrder {o o' : Outbound} {call : Call} (h : OutboundStep o (some call) o')
    (horder : call.InOrder o) : OrderedStep o (some call) o' :=
  ⟨h, fun _ hcall => Option.some.inj hcall ▸ horder⟩

/-- With no task and an empty slot a queued packet is in line. -/
theorem Call.send_inOrder {o : Outbound} {packet : Packet} (htasks : o.tasks = [])
    (hslot : o.latestObjectUpdates.packets = ∅) : (Call.send packet).InOrder o := by
  intro id data _ _
  refine ⟨fun task htask => ?_, ?_⟩
  · rw [htasks] at htask
    cases htask
  · dsimp only
    rw [hslot]
    exact AList.lookup_empty id

/-- With no task a live update is in line, unless the writer is about to look for it. -/
theorem Call.live_inOrder {o : Outbound} {packet : Packet} (haction : packet.action = .updateObject)
    (htasks : o.tasks = []) (hw : o.writer ≠ .slot) :
    (Call.sendRealtimeUpdate packet).InOrder o := by
  intro id data _ _
  refine ⟨fun task htask => ?_, ?_⟩
  · rw [htasks] at htask
    cases htask
  · dsimp only
    rw [if_pos haction]
    exact fun hslot => absurd hslot hw

/-- An update of object 1. -/
def firstUpdate (state : UInt8) : Packet :=
  { eventSize := 6, action := .updateObject, realAction := Action.updateObject.toU8
    data := [1, 0, 0, 0, state] }

/-- An update that is queued and a live one after it. -/
theorem wire_order_create_then_live :
    ∃ tr o, Transition.Run OrderedStep Outbound.new tr o ∧ NoRegression tr o ∧
      (updatesOf 1 o.wire).length = 2 := by
  have hrun := (Transition.Run.nil : Transition.Run OrderedStep Outbound.new [] Outbound.new)
    |>.snoc (OutboundStep.authenticated rfl).silent
    |>.snoc ((@OutboundStep.call _ (.send (firstUpdate 1)) _ rfl rfl rfl).inOrder
      (Call.send_inOrder rfl rfl))
    |>.snoc (OutboundStep.op rfl).silent
    |>.snoc ((@OutboundStep.call _ (.sendRealtimeUpdate (firstUpdate 2)) _ rfl rfl rfl).inOrder
      (Call.live_inOrder rfl rfl (by decide)))
    |>.snoc (OutboundStep.op rfl).silent
    |>.snoc (OutboundStep.op rfl).silent
    |>.snoc (OutboundStep.noTime rfl rfl).silent
    |>.snoc (OutboundStep.tryRecv rfl rfl rfl).silent
    |>.snoc (OutboundStep.written rfl).silent
    |>.snoc (OutboundStep.noTime rfl rfl).silent
    |>.snoc (OutboundStep.empty rfl rfl rfl (.inl rfl)).silent
    |>.snoc (OutboundStep.takeUpdate rfl rfl).silent
    |>.snoc (OutboundStep.written rfl).silent
  exact ⟨_, _, hrun, wire_order hrun, by decide⟩

/-- A live update waits in the slot while a newer state of its object is queued: the newer one
is written first. -/
theorem wire_order_fails :
    ¬ ∀ tr o, Transition.Run OutboundStep Outbound.new tr o → NoRegression tr o := by
  intro h
  have hrun := (Transition.Run.nil : Transition.Run OutboundStep Outbound.new [] Outbound.new)
    |>.snoc (.authenticated rfl)
    |>.snoc (@OutboundStep.call _ (.sendRealtimeUpdate (firstUpdate 1)) _ rfl rfl rfl)
    |>.snoc (.op rfl)
    |>.snoc (.op rfl)
    |>.snoc (@OutboundStep.call _ (.send (firstUpdate 2)) _ rfl rfl rfl)
    |>.snoc (.op rfl)
    |>.snoc (.noTime rfl rfl)
    |>.snoc (.tryRecv rfl rfl rfl)
    |>.snoc (.written rfl)
    |>.snoc (.noTime rfl rfl)
    |>.snoc (.empty rfl rfl rfl (.inl rfl))
    |>.snoc (.takeUpdate rfl rfl)
    |>.snoc (.written rfl)
  have hsub := h _ _ hrun 1
  revert hsub
  decide

end VangersSrv
