/-
Records read off a stream.

A reader takes a record off the front of a stream and gives what follows it.  Readers that need
no look at the rest compose, so records that are written one after the other, without their
lengths, are read one after the other.
-/
import Mathlib.Data.List.Basic

namespace Records

variable {α ρ : Type*}

/-- The bytes are read as the record, whatever follows them. -/
def Reads (read : List α → Option (ρ × List α)) (bytes : List α) (record : ρ) : Prop :=
  ∀ rest, read (bytes ++ rest) = some (record, rest)

/-- The first `n` elements. -/
def takeOff (n : Nat) (s : List α) : Option (List α × List α) :=
  if n ≤ s.length then some (s.take n, s.drop n) else none

/-- The elements up to the first `stop`, and it. -/
def takeThrough [DecidableEq α] (stop : α) : List α → Option (List α × List α)
  | [] => none
  | a :: s => if a = stop then some ([a], s) else (takeThrough stop s).map fun t => (a :: t.1, t.2)

/-- `n` records one after the other. -/
def readMany (read : List α → Option (ρ × List α)) : Nat → List α → Option (List ρ × List α)
  | 0, s => some ([], s)
  | n + 1, s => do
    let (record, s) ← read s
    let (records, s) ← readMany read n s
    some (record :: records, s)

variable {read : List α → Option (ρ × List α)} {s rest : List α}

theorem takeOff_append (xs : List α) : Reads (takeOff xs.length) xs xs := by
  intro rest
  simp [takeOff]

theorem length_takeOff {n : Nat} {xs : List α} (h : takeOff n s = some (xs, rest)) : xs.length = n := by
  unfold takeOff at h
  split at h
  · rename_i hlen
    cases h
    exact List.length_take_of_le hlen
  · cases h

theorem takeThrough_append [DecidableEq α] {stop : α} {xs : List α} (h : stop ∉ xs) :
    Reads (takeThrough stop) (xs ++ [stop]) (xs ++ [stop]) := by
  intro rest
  induction xs with
  | nil => simp [takeThrough]
  | cons a xs ih =>
      simp only [List.mem_cons, not_or] at h
      simp only [List.cons_append, takeThrough, if_neg (Ne.symm h.1), ih h.2, Option.map_some]

/-- Records that are each read are read one after the other. -/
theorem Reads.many {encode : ρ → List α} {records : List ρ}
    (h : ∀ r ∈ records, Reads read (encode r) r) :
    Reads (readMany read records.length) (records.flatMap encode) records := by
  intro rest
  induction records with
  | nil => rfl
  | cons r records ih =>
      have hfirst := h r List.mem_cons_self (records.flatMap encode ++ rest)
      have hothers := ih fun q hq => h q (List.mem_cons_of_mem r hq)
      simp only [List.flatMap_cons, List.append_assoc, List.length_cons, readMany, hfirst, hothers,
        Option.bind_eq_bind, Option.bind_some]

/-- As many records are read as were asked for. -/
theorem length_readMany {n : Nat} {records : List ρ} (h : readMany read n s = some (records, rest)) :
    records.length = n := by
  induction n generalizing s rest records with
  | zero =>
      simp only [readMany, Option.some.injEq, Prod.mk.injEq] at h
      rw [← h.1, List.length_nil]
  | succ n ih =>
      simp only [readMany, Option.bind_eq_bind, Option.bind_eq_some_iff, Option.some.injEq,
        Prod.mk.injEq, Prod.exists] at h
      obtain ⟨r, s', -, rs, s'', hrs, rfl, -⟩ := h
      rw [List.length_cons, ih hrs]

/-- What the reader gives for sure is so of every record. -/
theorem readMany_forall {P : ρ → Prop} {n : Nat} {records : List ρ}
    (hread : ∀ s r s', read s = some (r, s') → P r) (h : readMany read n s = some (records, rest)) :
    ∀ r ∈ records, P r := by
  induction n generalizing s rest records with
  | zero =>
      simp only [readMany, Option.some.injEq, Prod.mk.injEq] at h
      rw [← h.1]
      simp
  | succ n ih =>
      simp only [readMany, Option.bind_eq_bind, Option.bind_eq_some_iff, Option.some.injEq,
        Prod.mk.injEq, Prod.exists] at h
      obtain ⟨r, s', hr, rs, s'', hrs, rfl, -⟩ := h
      intro q hq
      rcases List.mem_cons.mp hq with rfl | hq
      · exact hread s q s' hr
      · exact ih hrs q hq

end Records
