/-
The pending live updates as a waiting line.

`LatestObjectUpdates` keeps the ids in a queue and the bytes in a map.  In every state that its
operations reach the two have the same ids, each of them once; so the loop of `take_next` never
skips an id, and the pair is a line in which the newest bytes of an object stand where its
oldest unsent ones would.
-/
import VangersSrv.Client.Outbound
import VangersSrv.Lib.LatestQueue

namespace VangersSrv

namespace LatestObjectUpdates

/-- What `replace` returns: whether `insert` found a packet under the id. -/
def replaced (l : LatestObjectUpdates) (objectId : I32) : Bool := (l.packets.lookup objectId).isSome

/-- What `remove` returns: whether the map's `remove` found a packet under the id. -/
def removed (l : LatestObjectUpdates) (objectId : I32) : Bool := (l.packets.lookup objectId).isSome

/-- The three operations with what they return. -/
def machine : Machine LatestObjectUpdates (LatestQueue.Op I32 Bytes) (LatestQueue.Answer Bytes) where
  start := default
  step l
    | .put objectId data => (l.replace objectId data, .waited (l.replaced objectId))
    | .pop => (l.takeNext.2, .popped l.takeNext.1)
    | .drop objectId => (l.remove objectId, .waited (l.removed objectId))

/-- The queue holds the ids of the line, and the map their packets. -/
structure Holds (l : LatestObjectUpdates) (q : LatestQueue I32 Bytes) : Prop where
  order : l.order = q.keys
  packets : ∀ objectId data, l.packets.lookup objectId = some data ↔ (objectId, data) ∈ q.entries

namespace Holds

variable {l : LatestObjectUpdates} {q : LatestQueue I32 Bytes} {objectId : I32} {data : Bytes}

theorem start : Holds default .empty where
  order := rfl
  packets := by simp [default, LatestQueue.empty]

theorem mem_iff (h : Holds l q) : objectId ∈ l.packets ↔ objectId ∈ q.keys := by
  rw [AList.mem_iff_lookup, LatestQueue.mem_keys]
  exact exists_congr fun data => h.packets objectId data

theorem isSome_lookup (h : Holds l q) :
    (l.packets.lookup objectId).isSome = decide (objectId ∈ q.keys) := by
  rw [Bool.eq_iff_iff, AList.lookup_isSome, decide_eq_true_iff, h.mem_iff]

theorem replace (h : Holds l q) : Holds (l.replace objectId data) (q.put objectId data) where
  order := by
    rw [LatestQueue.keys_put, ← h.order]
    simp only [LatestObjectUpdates.replace, h.mem_iff, h.order]
  packets j b := by
    rw [LatestQueue.mem_put, ← h.packets]
    simp only [LatestObjectUpdates.replace, AList.lookup_insert']
    by_cases hj : j = objectId <;> simp [hj, eq_comm]

theorem remove (h : Holds l q) : Holds (l.remove objectId) (q.drop objectId) where
  order := by
    rw [LatestQueue.keys_drop, ← h.order]
    simp only [LatestObjectUpdates.remove]
    split
    · rfl
    · rename_i hnot
      rw [h.mem_iff, ← h.order] at hnot
      refine (List.filter_eq_self.mpr fun j hj => ?_).symm
      have hne : j ≠ objectId := by
        rintro rfl
        exact hnot hj
      simpa using hne
  packets j b := by
    rw [LatestQueue.mem_drop, ← h.packets]
    simp only [LatestObjectUpdates.remove, AList.lookup_erase']
    by_cases hj : j = objectId <;> simp [hj]

/-- The first id of the queue has a packet, so the loop ends in its first round. -/
theorem takeNext (h : Holds l q) :
    l.takeNext.1 = q.entries.head?.map Prod.snd ∧ Holds l.takeNext.2 q.pop := by
  cases hentries : q.entries with
  | nil =>
      have horder : l.order = [] := by rw [h.order, LatestQueue.keys, hentries, List.map_nil]
      refine ⟨by simp [LatestObjectUpdates.takeNext, horder, takeFrom], ?_, fun j b => ?_⟩
      · simp [LatestObjectUpdates.takeNext, horder, takeFrom, LatestQueue.keys, LatestQueue.pop, hentries]
      · simpa [LatestObjectUpdates.takeNext, horder, takeFrom, LatestQueue.pop, hentries]
          using h.packets j b
  | cons e rest =>
      obtain ⟨objectId, data⟩ := e
      have hhead : q.entries.head? = some (objectId, data) := by rw [hentries, List.head?_cons]
      have hfound : l.packets.lookup objectId = some data :=
        (h.packets objectId data).mpr (List.mem_of_head? hhead)
      have htake : l.takeNext
          = (some data, { order := q.pop.keys, packets := l.packets.erase objectId }) := by
        have horder : l.order = objectId :: q.pop.keys := by
          rw [h.order]
          simp [LatestQueue.keys, LatestQueue.pop, hentries]
        simp [LatestObjectUpdates.takeNext, horder, takeFrom, hfound]
      rw [htake]
      refine ⟨rfl, rfl, fun j b => ?_⟩
      rw [LatestQueue.mem_pop hhead, ← h.packets]
      dsimp only
      rw [AList.lookup_erase']
      by_cases hj : j = objectId <;> simp [hj]

end Holds

/-- Queue and map together are the line. -/
theorem machine_refines : machine.Refines (LatestQueue.machine I32 Bytes) Holds where
  start := Holds.start
  step l q op h := by
    cases op with
    | put objectId data => exact h.replace
    | pop => exact h.takeNext.2
    | drop objectId => exact h.remove
  answer l q op h := by
    cases op with
    | put objectId data => exact congrArg LatestQueue.Answer.waited h.isSome_lookup
    | pop => exact congrArg LatestQueue.Answer.popped h.takeNext.1
    | drop objectId => exact congrArg LatestQueue.Answer.waited h.isSome_lookup

/-- **Whatever is replaced, taken and removed, the answers are those of the waiting line**, and
the queue holds each id that has a packet once, in the line's order. -/
theorem latestObjectUpdates_line (ops : List (LatestQueue.Op I32 Bytes)) :
    machine.answers default ops = (LatestQueue.machine I32 Bytes).answers .empty ops ∧
      let l := machine.after default ops
      let q := (LatestQueue.machine I32 Bytes).after .empty ops
      l.order.Nodup ∧ (∀ objectId, objectId ∈ l.order ↔ objectId ∈ l.packets) ∧
        l.order = q.keys ∧
        ∀ objectId data, l.packets.lookup objectId = some data ↔ (objectId, data) ∈ q.entries := by
  have hafter := machine_refines.after Holds.start ops
  refine ⟨machine_refines.answers Holds.start ops, ?_, fun objectId => ?_, hafter.order,
    hafter.packets⟩
  · rw [hafter.order]
    exact LatestQueue.nodup_keys
  · rw [hafter.order, hafter.mem_iff]

end LatestObjectUpdates

end VangersSrv
