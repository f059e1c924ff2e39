/-
Packets known by their numbers.

Nothing on the way out looks at the bytes it moves.  So a run may be followed with the number
of its call in place of every packet, and then two packets with the same bytes are told apart.
`NumberedStep` makes the steps of `OutboundStep` with numerals for bytes, and `Alike` says
that two ways out differ in their bytes only: every run is a numbered run seen through the
packets of its calls, and the other way round.
-/
import Mathlib.Data.List.Forall2
import VangersSrv.Client.Outbound

namespace VangersSrv

/-! ### The way of a packet -/

/-- How a packet gets to the writer: as the latest server time, as the latest update of an
object, or through the queue. -/
inductive Way
  | time
  | live (objectId : I32)
  | queue
  deriving DecidableEq

namespace Call

def way : Call → Way
  | .send packet => if packet.action = .serverTime then .time else .queue
  | .sendRealtimeUpdate packet =>
    if packet.action = .serverTime then .time
    else if packet.action = .updateObject then
      match packetObjectId packet with
      | some objectId => .live objectId
      | none => .queue
    else .queue

/-- The object whose life a packet ends. -/
def ends (call : Call) : Option I32 :=
  if call.packet.action = .deleteObject ∨ call.packet.action = .hideObject then
    packetObjectId call.packet
  else none

theorem sendReliable_eq (call : Call) (data : Bytes) :
    sendReliable call.packet data = call.ends.toList.map Op.removeUpdate ++ [.trySend data] := by
  unfold sendReliable ends
  split <;> rfl

/-- The operations of a call follow from the way of its packet. -/
theorem ops_eq (call : Call) (data : Bytes) :
    call.ops data =
      match call.way with
      | .time => [.replaceTime data, .notifyTime]
      | .live objectId => [.replaceUpdate objectId data, .notifyUpdates]
      | .queue => call.ends.toList.map Op.removeUpdate ++ [.trySend data] := by
  have hreliable := sendReliable_eq call data
  cases call with
  | send packet =>
      unfold ops way VangersSrv.send
      dsimp only at hreliable ⊢
      split
      · rfl
      · exact hreliable
  | sendRealtimeUpdate packet =>
      unfold ops way VangersSrv.sendRealtimeUpdate VangersSrv.send
      dsimp only at hreliable ⊢
      by_cases htime : packet.action = .serverTime
      · simp [htime]
      · by_cases hupdate : packet.action = .updateObject
        · cases hid : packetObjectId packet with
          | some objectId => simp [hupdate]
          | none =>
              simp only [hupdate, ne_eq, not_true_eq_false, if_false, if_true, reduceCtorEq]
              exact hreliable
        · simp only [htime, hupdate, ne_eq, not_false_eq_true, if_true, if_false]
          exact hreliable

end Call

/-! ### Numbered runs -/

/-- The bytes that stand for the packet with a number. -/
def numeral (n : Nat) : Bytes := List.replicate n 0

@[simp] theorem numeral_length (n : Nat) : (numeral n).length = n := List.length_replicate

/-- A way out on which every packet is the numeral of its call. -/
structure Numbered where
  out : Outbound
  /-- How many calls were made. -/
  next : Nat

/-- The steps of `OutboundStep`, for a server that makes the calls `calls 0`, `calls 1`, … -/
inductive NumberedStep (calls : Nat → Call) : Numbered → Option Call → Numbered → Prop
  | call {m : Numbered} (hidle : m.out.ops = []) (halive : m.out.dropped = false)
      (hdata : (calls m.next).packet.asBytes.isSome) :
      NumberedStep calls m (some (calls m.next))
        { out := { m.out with ops := (calls m.next).ops (numeral m.next) }, next := m.next + 1 }
  | silent {m : Numbered} {o : Outbound} (hstep : OutboundStep m.out none o) :
      NumberedStep calls m none { m with out := o }

namespace Numbered

def new : Numbered := { out := Outbound.new, next := 0 }

/-- The numbers of packets. -/
def numbers (l : List Bytes) : List Nat := l.map List.length

@[simp] theorem numbers_nil : numbers [] = [] := rfl

@[simp] theorem numbers_append (l l' : List Bytes) :
    numbers (l ++ l') = numbers l ++ numbers l' := List.map_append ..

@[simp] theorem numbers_cons (data : Bytes) (l : List Bytes) :
    numbers (data :: l) = data.length :: numbers l := rfl

/-- The numbers of the packets on the wire, in the order in which they were written. -/
def written (m : Numbered) : List Nat := numbers m.out.wire

end Numbered

/-! ### Two ways out that differ in their bytes only -/

section

variable (r : Bytes → Bytes → Prop)

/-- The same updates are pending. -/
structure LatestObjectUpdates.Alike (l l' : LatestObjectUpdates) : Prop where
  order : l.order = l'.order
  packets : ∀ id, Option.Rel r (l.packets.lookup id) (l'.packets.lookup id)

/-- The same operation. -/
inductive Op.Alike : Op → Op → Prop
  | replaceTime {a b : Bytes} (h : r a b) : Op.Alike (.replaceTime a) (.replaceTime b)
  | notifyTime : Op.Alike .notifyTime .notifyTime
  | removeUpdate (id : I32) : Op.Alike (.removeUpdate id) (.removeUpdate id)
  | replaceUpdate (id : I32) {a b : Bytes} (h : r a b) :
      Op.Alike (.replaceUpdate id a) (.replaceUpdate id b)
  | notifyUpdates : Op.Alike .notifyUpdates .notifyUpdates
  | trySend {a b : Bytes} (h : r a b) : Op.Alike (.trySend a) (.trySend b)

/-- The writer stands in the same place. -/
inductive Writer.Alike : Writer → Writer → Prop
  | idle {w : Writer} (h : w.hand = []) : Writer.Alike w w
  | writing {a b : Bytes} (h : r a b) : Writer.Alike (.writing a) (.writing b)

structure FallbackTask.Alike (a b : FallbackTask) : Prop where
  data : r a.data b.data
  claimed : a.claimed = b.claimed

structure Outbound.Alike (o t : Outbound) : Prop where
  fifo : List.Forall₂ r o.fifo t.fifo
  tasks : List.Forall₂ (FallbackTask.Alike r) o.tasks t.tasks
  latestServerTime : Option.Rel r o.latestServerTime t.latestServerTime
  latestObjectUpdates : LatestObjectUpdates.Alike r o.latestObjectUpdates t.latestObjectUpdates
  timeNotified : o.timeNotified = t.timeNotified
  updatesNotified : o.updatesNotified = t.updatesNotified
  ops : List.Forall₂ (Op.Alike r) o.ops t.ops
  dropped : o.dropped = t.dropped
  writer : Writer.Alike r o.writer t.writer
  rxServerClosed : o.rxServerClosed = t.rxServerClosed
  wire : List.Forall₂ r o.wire t.wire

end

section

variable {r : Bytes → Bytes → Prop}

/-! ### What one does, the other can do -/

theorem rel_flip {a b : Option Bytes} (h : Option.Rel r a b) : Option.Rel (flip r) b a := by
  cases h with
  | some hab => exact .some hab
  | none => exact .none

theorem rel_isSome {a b : Option Bytes} (h : Option.Rel r a b) : a.isSome = b.isSome := by
  cases h <;> rfl

namespace LatestObjectUpdates.Alike

variable {l l' : LatestObjectUpdates}

theorem symm (h : Alike r l l') : Alike (flip r) l' l :=
  { order := h.order.symm, packets := fun id => rel_flip (h.packets id) }

theorem mem_iff (h : Alike r l l') (id : I32) : id ∈ l.packets ↔ id ∈ l'.packets := by
  rw [← AList.lookup_isSome, ← AList.lookup_isSome, rel_isSome (h.packets id)]

theorem erase (h : Alike r l l') (id : I32) (order : List I32) :
    Alike r ⟨order, l.packets.erase id⟩ ⟨order, l'.packets.erase id⟩ := by
  refine { order := rfl, packets := fun k => ?_ }
  rw [AList.lookup_erase', AList.lookup_erase']
  split
  · exact .none
  · exact h.packets k

theorem replace (h : Alike r l l') (id : I32) {a b : Bytes} (hab : r a b) :
    Alike r (l.replace id a) (l'.replace id b) := by
  refine { order := ?_, packets := fun k => ?_ }
  · simp only [LatestObjectUpdates.replace, h.mem_iff id, h.order]
  · show Option.Rel r ((l.packets.insert id a).lookup k) ((l'.packets.insert id b).lookup k)
    rw [AList.lookup_insert', AList.lookup_insert']
    split
    · exact .some hab
    · exact h.packets k

theorem remove (h : Alike r l l') (id : I32) : Alike r (l.remove id) (l'.remove id) := by
  have hgone := h.erase id (l.remove id).order
  refine { order := ?_, packets := hgone.packets }
  simp only [LatestObjectUpdates.remove, h.mem_iff id, h.order]

theorem takeNext (h : Alike r l l') :
    Option.Rel r l.takeNext.1 l'.takeNext.1 ∧ Alike r l.takeNext.2 l'.takeNext.2 := by
  obtain ⟨order, packets⟩ := l
  obtain ⟨order', packets'⟩ := l'
  obtain rfl : order = order' := h.order
  unfold LatestObjectUpdates.takeNext
  dsimp only
  induction order with
  | nil => exact ⟨.none, { order := rfl, packets := h.packets }⟩
  | cons id rest ih =>
      have hid := h.packets id
      dsimp only at hid
      unfold takeFrom
      cases hfound : packets.lookup id with
      | some a =>
          cases hfound' : packets'.lookup id with
          | some b =>
              rw [hfound, hfound'] at hid
              exact ⟨hid, h.erase id rest⟩
          | none =>
              rw [hfound, hfound'] at hid
              cases hid
      | none =>
          cases hfound' : packets'.lookup id with
          | some b =>
              rw [hfound, hfound'] at hid
              cases hid
          | none => exact ih { order := rfl, packets := h.packets }

end LatestObjectUpdates.Alike

theorem Op.Alike.symm {a b : Op} (h : Op.Alike r a b) : Op.Alike (flip r) b a := by
  cases h with
  | replaceTime hd => exact .replaceTime hd
  | notifyTime => exact .notifyTime
  | removeUpdate id => exact .removeUpdate id
  | replaceUpdate id hd => exact .replaceUpdate id hd
  | notifyUpdates => exact .notifyUpdates
  | trySend hd => exact .trySend hd

namespace Writer.Alike

variable {w w' : Writer}

theorem symm (h : Alike r w w') : Alike (flip r) w' w := by
  cases h with
  | idle hw => exact .idle hw
  | writing hd => exact .writing hd

/-- Two writers with empty hands stand in the same place. -/
theorem eq_of_idle (h : Alike r w w') (hw : w.hand = []) : w' = w := by
  cases h with
  | idle _ => rfl
  | writing _ => cases hw

theorem eq_stopped_iff (h : Alike r w w') : w = .stopped ↔ w' = .stopped := by
  cases h with
  | idle _ => exact Iff.rfl
  | writing _ => simp

end Writer.Alike

/-- The same tasks have claimed room. -/
theorem claimed_length {l l' : List FallbackTask} (h : List.Forall₂ (FallbackTask.Alike r) l l') :
    (l.filter FallbackTask.claimed).length = (l'.filter FallbackTask.claimed).length := by
  induction h with
  | nil => rfl
  | cons hab _ ih =>
      simp only [List.filter_cons, hab.claimed]
      split <;> simp [ih]

/-- A list that is alike to one with a gap has the same gap. -/
theorem alike_split {α : Type} {rel : α → α → Prop} {l₁ l₂ l' : List α} {a : α}
    (h : List.Forall₂ rel (l₁ ++ a :: l₂) l') :
    ∃ l₁' b l₂', l' = l₁' ++ b :: l₂' ∧ List.Forall₂ rel l₁ l₁' ∧ rel a b ∧
      List.Forall₂ rel l₂ l₂' := by
  induction l₁ generalizing l' with
  | nil =>
      obtain ⟨b, l₂', hab, hl₂, rfl⟩ := List.forall₂_cons_left_iff.mp h
      exact ⟨[], b, l₂', rfl, .nil, hab, hl₂⟩
  | cons x l₁ ih =>
      obtain ⟨y, rest, hxy, hrest, rfl⟩ := List.forall₂_cons_left_iff.mp h
      obtain ⟨l₁', b, l₂', rfl, hl₁, hab, hl₂⟩ := ih hrest
      exact ⟨y :: l₁', b, l₂', rfl, .cons hxy hl₁, hab, hl₂⟩

namespace Outbound.Alike

variable {o o' t : Outbound}

theorem symm (h : Alike r o t) : Alike (flip r) t o where
  fifo := h.fifo.flip
  tasks := by
    refine List.Forall₂.flip (h.tasks.imp fun a b hab => ?_)
    exact { data := hab.data, claimed := hab.claimed.symm }
  latestServerTime := rel_flip h.latestServerTime
  latestObjectUpdates := h.latestObjectUpdates.symm
  timeNotified := h.timeNotified.symm
  updatesNotified := h.updatesNotified.symm
  ops := (h.ops.imp fun _ _ hop => hop.symm).flip
  dropped := h.dropped.symm
  writer := h.writer.symm
  rxServerClosed := h.rxServerClosed.symm
  wire := h.wire.flip

theorem permits (h : Alike r o t) : o.permits = t.permits := by
  simp only [Outbound.permits, h.fifo.length_eq, claimed_length h.tasks]

/-- An operation keeps two ways out alike. -/
theorem perform (h : Alike r o t) {a b : Op} (hop : Op.Alike r a b) :
    Alike r (o.perform a) (t.perform b) := by
  cases hop with
  | replaceTime hd => exact { h with latestServerTime := .some hd }
  | notifyTime => exact { h with timeNotified := rfl }
  | removeUpdate id => exact { h with latestObjectUpdates := h.latestObjectUpdates.remove id }
  | replaceUpdate id hd =>
      exact { h with latestObjectUpdates := h.latestObjectUpdates.replace id hd }
  | notifyUpdates => exact { h with updatesNotified := rfl }
  | @trySend a b hd =>
      have hroom := h.permits
      have hstopped := h.writer.eq_stopped_iff
      by_cases hw : o.writer = .stopped
      · have hw' : t.writer = .stopped := hstopped.mp hw
        simpa only [Outbound.perform, hw, hw', if_true] using h
      · have hw' : t.writer ≠ .stopped := fun hw' => hw (hstopped.mpr hw')
        by_cases hpermits : 0 < o.permits
        · simp only [Outbound.perform, hw, hw', ← hroom, hpermits, if_false, if_true]
          exact { h with fifo := List.rel_append h.fifo (.cons hd .nil) }
        · simp only [Outbound.perform, hw, hw', ← hroom, hpermits, if_false]
          exact { h with tasks := List.rel_append h.tasks (.cons { data := hd, claimed := rfl } .nil) }

/-- The writer goes on with empty hands. -/
theorem goto (h : Alike r o t) {w : Writer} (hw : w.hand = []) :
    Alike r { o with writer := w } { t with writer := w } :=
  { h with writer := .idle hw }

theorem fifo_nil (h : Alike r o t) (hfifo : o.fifo = []) : t.fifo = [] := by
  have hnil := h.fifo
  rw [hfifo] at hnil
  exact List.forall₂_nil_left_iff.mp hnil

theorem tasks_nil (h : Alike r o t) (htasks : o.tasks = []) : t.tasks = [] := by
  have hnil := h.tasks
  rw [htasks] at hnil
  exact List.forall₂_nil_left_iff.mp hnil

/-- The writer takes the head of the queue. -/
theorem takeFifo (h : Alike r o t) {data : Bytes} {rest : List Bytes} (hfifo : o.fifo = data :: rest) :
    ∃ data' rest', t.fifo = data' :: rest' ∧
      Alike r { o with fifo := rest, writer := .writing data }
        { t with fifo := rest', writer := .writing data' } := by
  have hcons := h.fifo
  rw [hfifo] at hcons
  obtain ⟨data', rest', hdata, hrest, hfifo'⟩ := List.forall₂_cons_left_iff.mp hcons
  exact ⟨data', rest', hfifo', { h with fifo := hrest, writer := .writing hdata }⟩

/-- What the writer has in its hands. -/
theorem written (h : Alike r o t) {data : Bytes} (hw : o.writer = .writing data) :
    ∃ data', t.writer = .writing data' ∧ r data data' := by
  have hwriter := h.writer
  rw [hw] at hwriter
  generalize t.writer = w at hwriter
  cases hwriter with
  | idle hhand => cases hhand
  | writing hdata => exact ⟨_, rfl, hdata⟩

/-- A task among the others. -/
theorem task (h : Alike r o t) {l₁ l₂ : List FallbackTask} {data : Bytes} {claimed : Bool}
    (htasks : o.tasks = l₁ ++ ⟨data, claimed⟩ :: l₂) :
    ∃ l₁' data' l₂', t.tasks = l₁' ++ ⟨data', claimed⟩ :: l₂' ∧ r data data' ∧
      List.Forall₂ (FallbackTask.Alike r) l₁ l₁' ∧ List.Forall₂ (FallbackTask.Alike r) l₂ l₂' := by
  have hsplit := h.tasks
  rw [htasks] at hsplit
  obtain ⟨l₁', ⟨data', claimed'⟩, l₂', htasks', hl₁, halike, hl₂⟩ := alike_split hsplit
  obtain rfl : claimed = claimed' := halike.claimed
  exact ⟨l₁', data', l₂', htasks', halike.data, hl₁, hl₂⟩

/-- **What one way out does, an alike one can do.** -/
theorem step (h : Alike r o t) (hstep : OutboundStep o none o') :
    ∃ t', OutboundStep t none t' ∧ Alike r o' t' := by
  have hidle : ∀ w, o.writer = w → w.hand = [] → t.writer = w := by
    intro w hw hhand
    rw [h.writer.eq_of_idle (hw ▸ hhand), hw]
  cases hstep with
  | @op op rest hops =>
      have hcons := h.ops
      rw [hops] at hcons
      obtain ⟨op', rest', hop, hrest, hops'⟩ := List.forall₂_cons_left_iff.mp hcons
      have hpopped : Alike r { o with ops := rest } { t with ops := rest' } := { h with ops := hrest }
      exact ⟨_, .op hops', hpopped.perform hop⟩
  | drop hops =>
      have hnil := h.ops
      rw [hops] at hnil
      exact ⟨_, .drop (List.forall₂_nil_left_iff.mp hnil), { h with dropped := rfl }⟩
  | claim htasks hroom hopen =>
      obtain ⟨l₁', data', l₂', htasks', hdata, hl₁, hl₂⟩ := h.task htasks
      refine ⟨_, .claim htasks' (h.permits ▸ hroom) fun hw => hopen (h.writer.eq_stopped_iff.mpr hw), ?_⟩
      exact { h with tasks := List.rel_append hl₁ (.cons { data := hdata, claimed := rfl } hl₂) }
  | push htasks hopen =>
      obtain ⟨l₁', data', l₂', htasks', hdata, hl₁, hl₂⟩ := h.task htasks
      refine ⟨_, .push htasks' fun hw => hopen (h.writer.eq_stopped_iff.mpr hw), ?_⟩
      exact { h with tasks := List.rel_append hl₁ hl₂
                     fifo := List.rel_append h.fifo (.cons hdata .nil) }
  | failed htasks hclosed =>
      obtain ⟨l₁', data', l₂', htasks', -, hl₁, hl₂⟩ := h.task htasks
      refine ⟨_, .failed htasks' (hidle _ hclosed rfl), ?_⟩
      exact { h with tasks := List.rel_append hl₁ hl₂ }
  | authenticated hw => exact ⟨_, .authenticated (hidle _ hw rfl), h.goto rfl⟩
  | refused hw =>
      exact ⟨_, .refused (hidle _ hw rfl), { h.goto rfl with fifo := .nil }⟩
  | takeTime hw htime =>
      have hrel := h.latestServerTime
      rw [htime] at hrel
      cases htime' : t.latestServerTime with
      | none =>
          rw [htime'] at hrel
          cases hrel
      | some data' =>
          rw [htime'] at hrel
          obtain ⟨hdata⟩ := hrel
          exact ⟨_, .takeTime (hidle _ hw rfl) htime',
            { h with latestServerTime := .none, writer := .writing hdata }⟩
  | noTime hw htime =>
      have hrel := h.latestServerTime
      rw [htime] at hrel
      cases htime' : t.latestServerTime with
      | none => exact ⟨_, .noTime (hidle _ hw rfl) htime', h.goto rfl⟩
      | some data' =>
          rw [htime'] at hrel
          cases hrel
  | tryRecv hw hopen hfifo =>
      obtain ⟨data', rest', hfifo', halike⟩ := h.takeFifo hfifo
      exact ⟨_, .tryRecv (hidle _ hw rfl) (h.rxServerClosed ▸ hopen) hfifo', halike⟩
  | empty hw hopen hfifo hsenders =>
      refine ⟨_, .empty (hidle _ hw rfl) (h.rxServerClosed ▸ hopen) (h.fifo_nil hfifo) ?_, h.goto rfl⟩
      rcases hsenders with halive | htasks
      · exact Or.inl (h.dropped ▸ halive)
      · refine Or.inr fun hnil => htasks ?_
        have htasks' := h.tasks
        rw [hnil] at htasks'
        exact List.forall₂_nil_right_iff.mp htasks'
  | disconnected hw hopen hfifo hdropped htasks =>
      exact ⟨_, .disconnected (hidle _ hw rfl) (h.rxServerClosed ▸ hopen) (h.fifo_nil hfifo)
        (h.dropped ▸ hdropped) (h.tasks_nil htasks), { h.goto rfl with rxServerClosed := rfl }⟩
  | skipFifo hw hclosed =>
      exact ⟨_, .skipFifo (hidle _ hw rfl) (h.rxServerClosed ▸ hclosed), h.goto rfl⟩
  | @takeUpdate data l hw htake =>
      obtain ⟨hrel, hleft⟩ := h.latestObjectUpdates.takeNext
      rw [htake] at hrel hleft
      cases htake' : t.latestObjectUpdates.takeNext with
      | mk found l' =>
          rw [htake'] at hrel hleft
          cases found with
          | none => cases hrel
          | some data' =>
              obtain ⟨hdata⟩ := hrel
              exact ⟨_, .takeUpdate (hidle _ hw rfl) htake',
                { h with latestObjectUpdates := hleft, writer := .writing hdata }⟩
  | @noUpdate l hw htake =>
      obtain ⟨hrel, hleft⟩ := h.latestObjectUpdates.takeNext
      rw [htake] at hrel hleft
      cases htake' : t.latestObjectUpdates.takeNext with
      | mk found l' =>
          rw [htake'] at hrel hleft
          cases found with
          | none =>
              exact ⟨_, .noUpdate (hidle _ hw rfl) htake',
                { h.goto rfl with latestObjectUpdates := hleft }⟩
          | some data' => cases hrel
  | finished hw hclosed =>
      exact ⟨_, .finished (hidle _ hw rfl) (h.rxServerClosed ▸ hclosed),
        { h.goto rfl with fifo := .nil }⟩
  | wakeTime hw hopen hnotified =>
      exact ⟨_, .wakeTime (hidle _ hw rfl) (h.rxServerClosed ▸ hopen) (h.timeNotified ▸ hnotified),
        { h.goto rfl with timeNotified := rfl }⟩
  | recv hw hopen hfifo =>
      obtain ⟨data', rest', hfifo', halike⟩ := h.takeFifo hfifo
      exact ⟨_, .recv (hidle _ hw rfl) (h.rxServerClosed ▸ hopen) hfifo', halike⟩
  | recvNone hw hopen hfifo hdropped htasks =>
      exact ⟨_, .recvNone (hidle _ hw rfl) (h.rxServerClosed ▸ hopen) (h.fifo_nil hfifo)
        (h.dropped ▸ hdropped) (h.tasks_nil htasks), { h.goto rfl with rxServerClosed := rfl }⟩
  | wakeUpdates hw hopen hnotified =>
      exact ⟨_, .wakeUpdates (hidle _ hw rfl) (h.rxServerClosed ▸ hopen)
        (h.updatesNotified ▸ hnotified), { h.goto rfl with updatesNotified := rfl }⟩
  | written hw =>
      obtain ⟨data', hw', hdata⟩ := h.written hw
      refine ⟨_, .written hw', { h.goto rfl with wire := ?_ }⟩
      exact List.rel_append h.wire (.cons hdata .nil)
  | writeError hw =>
      obtain ⟨data', hw', -⟩ := h.written hw
      exact ⟨_, .writeError hw', { h.goto rfl with fifo := .nil }⟩

end Outbound.Alike

/-- A call does the same with any bytes. -/
theorem Call.ops_alike (call : Call) {a b : Bytes} (h : r a b) :
    List.Forall₂ (Op.Alike r) (call.ops a) (call.ops b) := by
  rw [call.ops_eq, call.ops_eq]
  split
  · exact .cons (.replaceTime h) (.cons .notifyTime .nil)
  · exact .cons (.replaceUpdate _ h) (.cons .notifyUpdates .nil)
  · refine List.rel_append ?_ (.cons (.trySend h) .nil)
    exact (List.forall₂_same).mpr fun op hop => by
      obtain ⟨id, _, rfl⟩ := List.mem_map.mp hop
      exact .removeUpdate id

end

/-! ### Every run is a numbered run -/

/-- The numeral of a call stands for its packet. -/
def Names (calls : Nat → Call) (data mark : Bytes) : Prop :=
  ∃ n, mark = numeral n ∧ (calls n).packet.asBytes = some data

/-- The way out that a numbered one stands for. -/
def Numbered.Shows (calls : Nat → Call) (m : Numbered) (o : Outbound) : Prop :=
  Outbound.Alike (Names calls) o m.out

namespace Numbered

variable {calls : Nat → Call} {m m' : Numbered} {o : Outbound} {tr : List (Option Call)}

theorem shows_new : new.Shows calls Outbound.new where
  fifo := .nil
  tasks := .nil
  latestServerTime := .none
  latestObjectUpdates := { order := rfl, packets := fun _ => .none }
  timeNotified := rfl
  updatesNotified := rfl
  ops := .nil
  dropped := rfl
  writer := .idle rfl
  rxServerClosed := rfl
  wire := .nil

/-- A call starts on both sides. -/
theorem Shows.call (h : m.Shows calls o) {data : Bytes}
    (hdata : (calls m.next).packet.asBytes = some data) :
    Shows calls
      { out := { m.out with ops := (calls m.next).ops (numeral m.next) }, next := m.next + 1 }
      { o with ops := (calls m.next).ops data } :=
  { h with ops := (calls m.next).ops_alike ⟨m.next, rfl, hdata⟩ }

/-- **A numbered run shows a run.** -/
theorem exists_shown (h : Transition.Run (NumberedStep calls) new tr m) :
    ∃ o, Transition.Run OutboundStep Outbound.new tr o ∧ m.Shows calls o := by
  refine h.history (P := fun tr m => ∃ o, Transition.Run OutboundStep Outbound.new tr o ∧
    m.Shows calls o) ⟨_, .nil, shows_new⟩ ?_
  intro tr m e m' _ hstep hshown
  obtain ⟨o, hrun, hshows⟩ := hshown
  cases hstep with
  | call hidle halive hdata =>
      obtain ⟨data, hbytes⟩ := Option.isSome_iff_exists.mp hdata
      have hops := hshows.ops
      rw [hidle] at hops
      have hstep : OutboundStep o (some (calls m.next)) { o with ops := (calls m.next).ops data } :=
        .call (List.forall₂_nil_right_iff.mp hops) (hshows.dropped.trans halive) hbytes
      exact ⟨_, hrun.snoc hstep, hshows.call hbytes⟩
  | silent hstep =>
      obtain ⟨o', hstep', hshows'⟩ := hshows.symm.step hstep
      exact ⟨o', hrun.snoc hstep', hshows'.symm⟩

/-- **A run and a numbered run that shows it, step by step.**  The calls are those of the run,
and `other` when there are no more. -/
theorem exists_lockstep {Side : Outbound → Option Call → Outbound → Prop} (other : Call)
    (h : Transition.Run (fun o e o' => OutboundStep o e o' ∧ Side o e o') Outbound.new tr o) :
    ∃ calls m, Transition.Run (fun m e m' => NumberedStep calls m e m' ∧
        ∃ o o', m.Shows calls o ∧ m'.Shows calls o' ∧ Side o e o') new tr m ∧
      m.Shows calls o ∧ (List.range m.next).map calls = tr.filterMap id ∧
      ∀ n, calls n = other ∨ calls n ∈ tr.filterMap id := by
  have hall : ∀ calls : Nat → Call, (∀ n call, (tr.filterMap id)[n]? = some call → calls n = call) →
      ∃ m, Transition.Run (fun m e m' => NumberedStep calls m e m' ∧
          ∃ o o', m.Shows calls o ∧ m'.Shows calls o' ∧ Side o e o') new tr m ∧
        m.Shows calls o ∧ m.next = (tr.filterMap id).length := by
    refine h.history (P := fun tr o => ∀ calls : Nat → Call,
      (∀ n call, (tr.filterMap id)[n]? = some call → calls n = call) →
        ∃ m, Transition.Run (fun m e m' => NumberedStep calls m e m' ∧
            ∃ o o', m.Shows calls o ∧ m'.Shows calls o' ∧ Side o e o') new tr m ∧
          m.Shows calls o ∧ m.next = (tr.filterMap id).length) ?_ ?_
    · exact fun calls _ => ⟨_, .nil, shows_new, rfl⟩
    · rintro tr o e o' - ⟨hstep, hside⟩ hbefore calls hcalls
      have hgrown : ((tr ++ [e]).filterMap id) = tr.filterMap id ++ e.toList := by
        cases e <;> simp
      rw [hgrown] at hcalls ⊢
      obtain ⟨m, hrun, hshows, hnext⟩ := hbefore calls fun n call hcall =>
        hcalls n call (by rw [List.getElem?_append_left]; exact hcall
                          exact (List.getElem?_eq_some_iff.mp hcall).1)
      cases e with
      | none =>
          obtain ⟨o'', hstep', hshows'⟩ := hshows.step hstep
          refine ⟨{ m with out := o'' },
            hrun.snoc ⟨.silent hstep', o, o', hshows, hshows', hside⟩, hshows', ?_⟩
          simpa using hnext
      | some call =>
          have hcall : calls m.next = call := hcalls m.next call (by simp [hnext])
          cases hstep with
          | call hidle halive hdata =>
              have hops := hshows.ops
              rw [hidle] at hops
              subst hcall
              have hstep' : NumberedStep calls m (some (calls m.next)) _ :=
                .call (List.forall₂_nil_left_iff.mp hops) (hshows.dropped.symm.trans halive)
                  (by simp [hdata])
              have hshows' := hshows.call hdata
              refine ⟨_, hrun.snoc ⟨hstep', o, _, hshows, hshows', hside⟩, hshows', ?_⟩
              simp [hnext]
  let calls : Nat → Call := fun n => ((tr.filterMap id)[n]?).getD other
  have hcalls : ∀ n call, (tr.filterMap id)[n]? = some call → calls n = call := by
    intro n call hcall
    show ((tr.filterMap id)[n]?).getD other = call
    rw [hcall]
    rfl
  obtain ⟨m, hrun, hshows, hnext⟩ := hall calls hcalls
  refine ⟨calls, m, hrun, hshows, ?_, fun n => ?_⟩
  · refine List.ext_getElem (by simp [hnext]) fun n hn hn' => ?_
    rw [List.getElem_map, List.getElem_range]
    exact hcalls n _ (List.getElem?_eq_getElem hn')
  · cases hcall : (tr.filterMap id)[n]? with
    | none =>
        refine Or.inl ?_
        show ((tr.filterMap id)[n]?).getD other = other
        rw [hcall]
        rfl
    | some call => exact Or.inr (hcalls n call hcall ▸ List.mem_of_getElem? hcall)

/-- **Every run is shown by a numbered run.** -/
theorem exists_numbered (h : Transition.Run OutboundStep Outbound.new tr o) :
    ∃ calls m, Transition.Run (NumberedStep calls) new tr m ∧ m.Shows calls o := by
  have hrun : Transition.Run (fun o e o' => OutboundStep o e o' ∧ True) Outbound.new tr o :=
    h.mono fun _ _ _ hstep => ⟨hstep, trivial⟩
  obtain ⟨calls, m, hrun, hshows, -⟩ := exists_lockstep (.send default) hrun
  exact ⟨calls, m, hrun.mono fun _ _ _ hstep => hstep.1, hshows⟩

end Numbered

end VangersSrv
