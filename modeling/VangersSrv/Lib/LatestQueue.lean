/-
Waiting lines of latest values.

A line holds at most one value for a key.  A value for a key that waits takes the older one's
place, and one for a key that does not joins at the end; what has waited longest leaves first.
-/
import VangersSrv.Lib.Machine
import Mathlib.Data.List.Nodup

/-- Keys with their values, the one that has waited longest first. -/
structure LatestQueue (κ α : Type*) where
  entries : List (κ × α)
  distinct : (entries.map Prod.fst).Nodup

namespace LatestQueue

variable {κ α : Type*}

/-- The keys in line. -/
def keys (q : LatestQueue κ α) : List κ := q.entries.map Prod.fst

def empty : LatestQueue κ α := { entries := [], distinct := List.nodup_nil }

/-- Without the one that has waited longest. -/
def pop (q : LatestQueue κ α) : LatestQueue κ α where
  entries := q.entries.tail
  distinct := by
    rw [List.map_tail]
    exact q.distinct.tail

variable {q : LatestQueue κ α} {k j : κ} {a b : α}

theorem nodup_keys : q.keys.Nodup := q.distinct

theorem mem_keys : k ∈ q.keys ↔ ∃ a, (k, a) ∈ q.entries := by
  simp [keys]

/-- The one that leaves is the only one that does. -/
theorem mem_pop (hhead : q.entries.head? = some (k, a)) :
    (j, b) ∈ q.pop.entries ↔ j ≠ k ∧ (j, b) ∈ q.entries := by
  obtain ⟨_ | ⟨e, rest⟩, hdistinct⟩ := q
  · simp at hhead
  · obtain rfl : e = (k, a) := by simpa using hhead
    obtain ⟨hnot, -⟩ := List.nodup_cons.mp hdistinct
    simp only [pop, List.tail_cons, List.mem_cons, Prod.mk.injEq]
    constructor
    · intro hmem
      refine ⟨?_, Or.inr hmem⟩
      rintro rfl
      exact hnot (List.mem_map.mpr ⟨_, hmem, rfl⟩)
    · rintro ⟨hne, ⟨rfl, -⟩ | hmem⟩
      · exact absurd rfl hne
      · exact hmem

variable [DecidableEq κ]

/-- The newer value in the older one's place, or at the end. -/
def put (q : LatestQueue κ α) (k : κ) (a : α) : LatestQueue κ α where
  entries :=
    if k ∈ q.keys then q.entries.map fun e => if e.1 = k then (k, a) else e
    else q.entries ++ [(k, a)]
  distinct := by
    split
    · have hkeys : (q.entries.map fun e => if e.1 = k then (k, a) else e).map Prod.fst = q.keys := by
        unfold keys
        rw [List.map_map]
        refine List.map_congr_left fun e _ => ?_
        by_cases he : e.1 = k <;> simp [he]
      rw [hkeys]
      exact q.distinct
    · rename_i hnot
      rw [List.map_append]
      refine q.distinct.append (List.nodup_singleton _) ?_
      simpa [keys] using hnot

/-- Without the key, and the others as they stand. -/
def drop (q : LatestQueue κ α) (k : κ) : LatestQueue κ α where
  entries := q.entries.filter fun e => e.1 ≠ k
  distinct := q.distinct.sublist (List.filter_sublist.map _)

/-- Nobody loses its place, and who joins stands at the end. -/
theorem keys_put : (q.put k a).keys = if k ∈ q.keys then q.keys else q.keys ++ [k] := by
  unfold put keys
  dsimp only
  split
  · rw [List.map_map]
    refine List.map_congr_left fun e _ => ?_
    by_cases he : e.1 = k <;> simp [he]
  · simp

theorem mem_put :
    (j, b) ∈ (q.put k a).entries ↔ j = k ∧ b = a ∨ j ≠ k ∧ (j, b) ∈ q.entries := by
  unfold put
  dsimp only
  split
  · rename_i hmem
    obtain ⟨old, hold⟩ := mem_keys.mp hmem
    simp only [List.mem_map, Prod.exists]
    constructor
    · rintro ⟨i, c, hi, heq⟩
      split at heq
      · simp only [Prod.mk.injEq] at heq
        exact Or.inl ⟨heq.1.symm, heq.2.symm⟩
      · rename_i hne
        obtain ⟨rfl, rfl⟩ := Prod.mk.injEq .. ▸ heq
        exact Or.inr ⟨hne, hi⟩
    · rintro (⟨rfl, rfl⟩ | ⟨hne, hj⟩)
      · exact ⟨j, old, hold, by simp⟩
      · exact ⟨j, b, hj, by simp [hne]⟩
  · rename_i hnot
    simp only [List.mem_append, List.mem_singleton, Prod.mk.injEq]
    constructor
    · rintro (hj | hnew)
      · refine Or.inr ⟨?_, hj⟩
        rintro rfl
        exact hnot (mem_keys.mpr ⟨b, hj⟩)
      · exact Or.inl hnew
    · rintro (hnew | ⟨-, hj⟩)
      · exact Or.inr hnew
      · exact Or.inl hj

theorem keys_drop : (q.drop k).keys = q.keys.filter (· ≠ k) := by
  simp [keys, drop, List.filter_map, Function.comp_def]

theorem mem_drop : (j, b) ∈ (q.drop k).entries ↔ j ≠ k ∧ (j, b) ∈ q.entries := by
  simp [drop, and_comm]

/-! ### The line as a machine -/

inductive Op (κ α : Type*)
  | put (k : κ) (a : α)
  | pop
  | drop (k : κ)

inductive Answer (α : Type*)
  /-- Whether the key waited. -/
  | waited (b : Bool)
  /-- What left. -/
  | popped (a : Option α)

def machine (κ α : Type*) [DecidableEq κ] : Machine (LatestQueue κ α) (Op κ α) (Answer α) where
  start := empty
  step q
    | .put k a => (q.put k a, .waited (k ∈ q.keys))
    | .pop => (q.pop, .popped (q.entries.head?.map Prod.snd))
    | .drop k => (q.drop k, .waited (k ∈ q.keys))

end LatestQueue
