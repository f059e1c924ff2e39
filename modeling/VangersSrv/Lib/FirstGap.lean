/-
The first gap in a sorted list.

Members of a sorted list are walked beside sorted candidates, and the walk stops at the first
candidate that is not the next member.  When every member is a candidate, this is the least
candidate that is no member, and the walk goes through exactly when there is none.
-/
import Mathlib.Data.List.Find
import Mathlib.Order.Defs.Unbundled

namespace FirstGap

variable {α : Type*} [DecidableEq α]

/-- The first candidate at which the walk stops. -/
def firstGap : List α → List α → Option α
  | _, [] => none
  | [], c :: _ => some c
  | a :: used, c :: candidates => if a = c then firstGap used candidates else some c

/-- The least of the candidates that are not used. -/
structure IsLeastFree (r : α → α → Prop) (used candidates : List α) (b : α) : Prop where
  candidate : b ∈ candidates
  free : b ∉ used
  least : ∀ a ∈ candidates, a ∉ used → a = b ∨ r b a

variable {r : α → α → Prop} {used candidates : List α} {b : α}

/-- A scan of sorted candidates finds the least of those that are not used. -/
theorem find?_eq_some_iff [Std.Irrefl r] [IsTrans α r] (hcandidates : candidates.Pairwise r) :
    candidates.find? (fun c => c ∉ used) = some b ↔ IsLeastFree r used candidates b := by
  constructor
  · intro h
    obtain ⟨hfree, before, after, rfl, hbefore⟩ := List.find?_eq_some_iff_append.mp h
    refine ⟨by simp, by simpa using hfree, fun a ha hnot => ?_⟩
    rcases List.mem_append.mp ha with ha | ha
    · exact absurd hnot (by simpa using hbefore a ha)
    · rcases List.mem_cons.mp ha with rfl | ha
      · exact Or.inl rfl
      · have hsorted := (List.pairwise_append.mp hcandidates).2.1
        exact Or.inr ((List.pairwise_cons.mp hsorted).1 a ha)
  · intro h
    cases hfind : candidates.find? (fun c => c ∉ used) with
    | none =>
        have hnone := List.find?_eq_none.mp hfind b h.candidate
        exact absurd h.free (by simpa using hnone)
    | some a =>
        obtain ⟨hfree, before, after, hsplit, hbefore⟩ := List.find?_eq_some_iff_append.mp hfind
        -- the least is not before the first that is free, nor after it
        have hmem : b ∈ before ++ a :: after := hsplit ▸ h.candidate
        rcases List.mem_append.mp hmem with hb | hb
        · exact absurd h.free (by simpa using hbefore b hb)
        · rcases List.mem_cons.mp hb with rfl | hb
          · rfl
          · have hsorted := (List.pairwise_append.mp (hsplit ▸ hcandidates)).2.1
            have hab : r a b := (List.pairwise_cons.mp hsorted).1 b hb
            rcases h.least a (by simp [hsplit]) (by simpa using hfree) with rfl | hba
            · rfl
            · exact absurd (IsTrans.trans a b a hab hba) (irrefl a)

/-- **The walk is a scan for the first candidate that is not used.** -/
theorem firstGap_eq_find? [Std.Irrefl r] [IsTrans α r] (hused : used.Pairwise r)
    (hcandidates : candidates.Pairwise r) (hsub : used ⊆ candidates) :
    firstGap used candidates = candidates.find? fun c => c ∉ used := by
  induction candidates generalizing used with
  | nil => cases used <;> rfl
  | cons c candidates ih =>
      rw [List.pairwise_cons] at hcandidates
      cases used with
      | nil => simp [firstGap]
      | cons a used =>
          rw [List.pairwise_cons] at hused
          unfold firstGap
          split
          · rename_i hac
            subst hac
            have hlater : ∀ x ∈ used, x ∈ candidates := by
              intro x hx
              rcases List.mem_cons.mp (hsub (List.mem_cons_of_mem a hx)) with rfl | hx'
              · exact absurd (hused.1 x hx) (irrefl x)
              · exact hx'
            rw [ih hused.2 hcandidates.2 hlater, List.find?_cons_of_neg (by simp)]
            refine List.find?_congr fun x hx => ?_
            have hne : x ≠ a := by
              rintro rfl
              exact irrefl x (hcandidates.1 x hx)
            simp [hne]
          · rename_i hac
            -- the members are candidates after `c`
            have hafter : r c a := by
              rcases List.mem_cons.mp (hsub List.mem_cons_self) with rfl | ha
              · exact absurd rfl hac
              · exact hcandidates.1 a ha
            have hfree : c ∉ a :: used := by
              intro hc
              rcases List.mem_cons.mp hc with rfl | hc
              · exact hac rfl
              · exact irrefl c (IsTrans.trans c a c hafter (hused.1 c hc))
            rw [List.find?_cons_of_pos (by simpa using hfree)]

/-- The walk stops at the least candidate that is not used. -/
theorem firstGap_eq_some_iff [Std.Irrefl r] [IsTrans α r] (hused : used.Pairwise r)
    (hcandidates : candidates.Pairwise r) (hsub : used ⊆ candidates) :
    firstGap used candidates = some b ↔ IsLeastFree r used candidates b := by
  rw [firstGap_eq_find? hused hcandidates hsub, find?_eq_some_iff hcandidates]

/-- The walk goes through when every candidate is used. -/
theorem firstGap_eq_none_iff [Std.Irrefl r] [IsTrans α r] (hused : used.Pairwise r)
    (hcandidates : candidates.Pairwise r) (hsub : used ⊆ candidates) :
    firstGap used candidates = none ↔ ∀ c ∈ candidates, c ∈ used := by
  rw [firstGap_eq_find? hused hcandidates hsub, List.find?_eq_none]
  simp

end FirstGap
