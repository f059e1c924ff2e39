/-
Tables of running maxima.

Values are recorded in the slots of a table one after the other, and a slot keeps the largest of
them.  What a slot holds in the end is the maximum of its first content and of all that was
recorded in it, so the order of the records is of no matter.
-/
import Mathlib.Data.List.Basic

namespace MaxTable

variable {α : Type*}

section

variable [LT α] [DecidableLT α]

/-- The larger of a value and what its slot holds is kept.  There may be no such slot. -/
def record (table : List α) (i : Nat) (x : α) : Option (List α) :=
  match table[i]? with
  | none => none
  | some y => if y < x then some (table.set i x) else some table

def recordAll (table : List α) (records : List (Nat × α)) : Option (List α) :=
  records.foldlM (fun table e => record table e.1 e.2) table

variable {table table' : List α} {records : List (Nat × α)} {i : Nat} {x : α}

theorem recordAll_cons :
    recordAll table ((i, x) :: records) = (record table i x).bind fun table =>
      recordAll table records := rfl

theorem record_isSome : (record table i x).isSome ↔ i < table.length := by
  unfold record
  split
  · rename_i hnone
    simpa using hnone
  · rename_i hsome
    have hlt := (List.getElem?_eq_some_iff.mp hsome).1
    split <;> simp [hlt]

theorem length_record (h : record table i x = some table') : table'.length = table.length := by
  unfold record at h
  split at h
  · cases h
  · split at h <;> cases h
    · exact List.length_set
    · rfl

theorem length_recordAll (h : recordAll table records = some table') :
    table'.length = table.length := by
  induction records generalizing table with
  | nil =>
      cases h
      rfl
  | cons e records ih =>
      rw [recordAll_cons, Option.bind_eq_some_iff] at h
      obtain ⟨mid, hmid, h⟩ := h
      rw [ih h, length_record hmid]

/-- **Every record has a slot, or there is no table.** -/
theorem recordAll_isSome :
    (recordAll table records).isSome ↔ ∀ e ∈ records, e.1 < table.length := by
  induction records generalizing table with
  | nil => simp [recordAll]
  | cons e records ih =>
      rw [recordAll_cons, List.forall_mem_cons, ← record_isSome (i := e.1) (x := e.2)]
      cases hmid : record table e.1 e.2 with
      | none => simp
      | some mid => simp [ih, length_record hmid]

end

/-- The largest of the records of a slot that held `a`. -/
structure IsMax [LE α] (a : α) (i : Nat) (records : List (Nat × α)) (m : α) : Prop where
  ge : a ≤ m
  bound : ∀ x, (i, x) ∈ records → x ≤ m
  attained : m = a ∨ (i, m) ∈ records

section

variable [LE α] {records : List (Nat × α)} {i : Nat} {a m n : α}

theorem IsMax.unique [Std.IsLinearOrder α] (h : IsMax a i records m) (h' : IsMax a i records n) : m = n := by
  refine Std.le_antisymm ?_ ?_
  · rcases h.attained with rfl | hmem
    · exact h'.ge
    · exact h'.bound m hmem
  · rcases h'.attained with rfl | hmem
    · exact h.ge
    · exact h.bound n hmem

end

section

variable [LE α] [LT α] [DecidableLT α] [Std.IsLinearOrder α] [Std.LawfulOrderLT α]
  {table table' : List α} {records : List (Nat × α)} {i j : Nat} {a x : α}

/-- One record, and then the others. -/
theorem getElem?_record (h : record table j x = some table') (hi : table[i]? = some a) :
    ∃ b, table'[i]? = some b ∧ a ≤ b ∧ (j = i → x ≤ b) ∧ (b = a ∨ (j = i ∧ b = x)) := by
  unfold record at h
  split at h
  · cases h
  rename_i y hy
  split at h <;> cases h
  · rename_i hlt
    by_cases hji : j = i
    · subst hji
      obtain rfl := Option.some.inj (hi.symm.trans hy)
      refine ⟨x, ?_, Std.le_of_lt hlt, fun _ => Std.le_refl x, Or.inr ⟨rfl, rfl⟩⟩
      exact List.getElem?_set_self (List.getElem?_eq_some_iff.mp hi).1
    · refine ⟨a, ?_, Std.le_refl a, fun h => absurd h hji, Or.inl rfl⟩
      rw [List.getElem?_set_ne hji]
      exact hi
  · rename_i hnot
    refine ⟨a, hi, Std.le_refl a, ?_, Or.inl rfl⟩
    rintro rfl
    obtain rfl := Option.some.inj (hi.symm.trans hy)
    exact Std.not_lt.mp hnot

/-- **A slot ends up with the maximum of its records.** -/
theorem recordAll_isMax (h : recordAll table records = some table') (hi : table[i]? = some a) :
    ∃ m, table'[i]? = some m ∧ IsMax a i records m := by
  induction records generalizing table a with
  | nil =>
      cases h
      exact ⟨a, hi, Std.le_refl a, fun _ hx => absurd hx List.not_mem_nil, Or.inl rfl⟩
  | cons e records ih =>
      obtain ⟨j, x⟩ := e
      rw [recordAll_cons, Option.bind_eq_some_iff] at h
      obtain ⟨mid, hmid, h⟩ := h
      obtain ⟨b, hb, hab, hxb, hfrom⟩ := getElem?_record hmid hi
      obtain ⟨m, hm, hge, hbound, hattained⟩ := ih h hb
      refine ⟨m, hm, Std.le_trans hab hge, fun z hz => ?_, ?_⟩
      · rcases List.mem_cons.mp hz with heq | hz
        · obtain ⟨rfl, rfl⟩ := Prod.mk.inj heq
          exact Std.le_trans (hxb rfl) hge
        · exact hbound z hz
      · rcases hattained with rfl | hmem
        · rcases hfrom with rfl | ⟨rfl, rfl⟩
          · exact Or.inl rfl
          · exact Or.inr List.mem_cons_self
        · exact Or.inr (List.mem_cons_of_mem _ hmem)

/-- **The order of the records is of no matter.** -/
theorem recordAll_perm {records' : List (Nat × α)} (h : records.Perm records') :
    recordAll table records = recordAll table records' := by
  have hsome : (recordAll table records).isSome ↔ (recordAll table records').isSome := by
    rw [recordAll_isSome, recordAll_isSome]
    exact ⟨fun hall e he => hall e (h.mem_iff.mpr he), fun hall e he => hall e (h.mem_iff.mp he)⟩
  cases hleft : recordAll table records with
  | none =>
      cases hright : recordAll table records' with
      | none => rfl
      | some right => simp [hleft, hright] at hsome
  | some left =>
      rw [hleft] at hsome
      obtain ⟨right, hright⟩ := Option.isSome_iff_exists.mp (hsome.mp rfl)
      rw [hright]
      refine congrArg some (List.ext_getElem ?_ fun i hl hr => ?_)
      · rw [length_recordAll hleft, length_recordAll hright]
      have hi : i < table.length := length_recordAll hleft ▸ hl
      obtain ⟨m, hm, hmax⟩ := recordAll_isMax hleft (List.getElem?_eq_getElem hi)
      obtain ⟨n, hn, hge, hbound, hattained⟩ := recordAll_isMax hright (List.getElem?_eq_getElem hi)
      have hmax' : IsMax table[i] i records n :=
        ⟨hge, fun x hx => hbound x (h.mem_iff.mp hx), hattained.imp_right h.mem_iff.mpr⟩
      rw [List.getElem?_eq_getElem hl, Option.some.injEq] at hm
      rw [List.getElem?_eq_getElem hr, Option.some.injEq] at hn
      rw [hm, hn, hmax.unique hmax']

end

end MaxTable
