/-
Writing to the first match of a list.

`iter_mut().find(p)` hands out one mutable element: the first that satisfies `p`.
`modifyFirst p f` is the list after that element was overwritten with `f` of it.
Every fact about such a write follows from where the element stands, which
`modifyFirst_split` says once.
-/
import Mathlib.Data.List.Basic
import Mathlib.Data.List.Perm.Basic

namespace List

variable {α β : Type*}

/-- Applies `f` to the first element that satisfies `p`. -/
def modifyFirst (p : α → Bool) (f : α → α) : List α → List α
  | [] => []
  | a :: rest => if p a then f a :: rest else a :: modifyFirst p f rest

variable {p : α → Bool} {f : α → α} {l : List α} {a : α}

/-- The write keeps everything in front of the match and everything behind it. -/
theorem modifyFirst_split (h : l.find? p = some a) :
    ∃ l₁ l₂, l = l₁ ++ a :: l₂ ∧ (∀ x ∈ l₁, p x = false) ∧ p a = true ∧
      l.modifyFirst p f = l₁ ++ f a :: l₂ := by
  induction l with
  | nil => simp at h
  | cons b rest ih =>
      by_cases hb : p b = true
      · simp only [find?_cons, hb, Option.some.injEq] at h
        subst h
        exact ⟨[], rest, rfl, by simp, hb, by simp [modifyFirst, hb]⟩
      · have hrest : rest.find? p = some a := by simpa [find?_cons, hb] using h
        obtain ⟨l₁, l₂, hl, hnot, ha, hmod⟩ := ih hrest
        refine ⟨b :: l₁, l₂, by simp [hl], ?_, ha, by simp [modifyFirst, hb, hmod]⟩
        intro x hx
        rcases List.mem_cons.mp hx with rfl | hx
        · simpa using hb
        · exact hnot x hx

theorem modifyFirst_of_find?_eq_none (h : l.find? p = none) : l.modifyFirst p f = l := by
  induction l with
  | nil => rfl
  | cons b rest ih =>
      have hb : p b = false := by
        simpa using find?_eq_none.mp h b (by simp)
      have hrest : rest.find? p = none := by simpa [find?_cons, hb] using h
      simp [modifyFirst, hb, ih hrest]

/-- Where no two elements match, the write is one to every match. -/
theorem modifyFirst_eq_map (h : l.Pairwise fun a b => p a = true → p b = false) :
    l.modifyFirst p f = l.map fun a => if p a then f a else a := by
  induction l with
  | nil => rfl
  | cons b rest ih =>
      obtain ⟨hb, hrest⟩ := pairwise_cons.mp h
      rw [modifyFirst, map_cons]
      split
      · rename_i hp
        have hkept : rest.map (fun a => if p a then f a else a) = rest.map id :=
          map_congr_left fun a ha => by simp [hb a ha hp]
        rw [hkept, map_id]
      · rw [ih hrest]

/-- Only what is written at the match matters. -/
theorem modifyFirst_congr {g : α → α} (h : ∀ a, l.find? p = some a → f a = g a) :
    l.modifyFirst p f = l.modifyFirst p g := by
  cases hf : l.find? p with
  | none => rw [modifyFirst_of_find?_eq_none hf, modifyFirst_of_find?_eq_none hf]
  | some a =>
      obtain ⟨l₁, l₂, hl, hnot, ha, hmod⟩ := modifyFirst_split (f := f) hf
      rw [hmod, h a hf, hl]
      clear hl hmod hf
      induction l₁ with
      | nil => simp [modifyFirst, ha]
      | cons b rest ih =>
          have hb := hnot b (by simp)
          simp [modifyFirst, hb, ih fun x hx => hnot x (by simp [hx])]

/-- A filter that drops the match before and after the write does not see it. -/
theorem filter_modifyFirst {q : α → Bool}
    (hq : ∀ a, l.find? p = some a → q a = false ∧ q (f a) = false) :
    (l.modifyFirst p f).filter q = l.filter q := by
  cases h : l.find? p with
  | none => rw [modifyFirst_of_find?_eq_none h]
  | some a =>
      obtain ⟨l₁, l₂, hl, -, -, hmod⟩ := modifyFirst_split (f := f) h
      rw [hmod, hl]
      simp [(hq a h).1, (hq a h).2]

/-- A filter that keeps every match before and after the write may come first. -/
theorem filter_modifyFirst_comm {q : α → Bool} (hq : ∀ a, p a = true → q a = true ∧ q (f a) = true) :
    (l.modifyFirst p f).filter q = (l.filter q).modifyFirst p f := by
  induction l with
  | nil => rfl
  | cons b rest ih =>
      by_cases hb : p b = true
      · obtain ⟨hbefore, hafter⟩ := hq b hb
        simp [modifyFirst, hb, hbefore, hafter]
      · by_cases hkept : q b = true <;> simp [modifyFirst, hb, hkept, ih]

@[simp] theorem length_modifyFirst : (l.modifyFirst p f).length = l.length := by
  induction l with
  | nil => rfl
  | cons b rest ih =>
      unfold modifyFirst
      split <;> simp [ih]

/-- What the write does not touch, a map over the list does not see. -/
theorem map_modifyFirst {g : α → β} (hg : ∀ a, l.find? p = some a → g (f a) = g a) :
    (l.modifyFirst p f).map g = l.map g := by
  cases h : l.find? p with
  | none => rw [modifyFirst_of_find?_eq_none h]
  | some a =>
      obtain ⟨l₁, l₂, hl, -, -, hmod⟩ := modifyFirst_split (f := f) h
      rw [hmod, hl]
      simp [hg a h]

theorem mem_modifyFirst {x : α} (h : x ∈ l.modifyFirst p f) :
    x ∈ l ∨ ∃ a, l.find? p = some a ∧ x = f a := by
  cases hf : l.find? p with
  | none =>
      rw [modifyFirst_of_find?_eq_none hf] at h
      exact Or.inl h
  | some a =>
      obtain ⟨l₁, l₂, hl, -, -, hmod⟩ := modifyFirst_split (f := f) hf
      rw [hmod] at h
      rw [hl]
      simp only [mem_append, mem_cons] at h ⊢
      rcases h with h | rfl | h
      · exact Or.inl (Or.inl h)
      · exact Or.inr ⟨a, rfl, rfl⟩
      · exact Or.inl (Or.inr (Or.inr h))

/-- What is not written stays. -/
theorem mem_modifyFirst_of_ne {x : α} (hx : x ∈ l) (hne : ∀ a, l.find? p = some a → x ≠ a) :
    x ∈ l.modifyFirst p f := by
  cases hf : l.find? p with
  | none => rwa [modifyFirst_of_find?_eq_none hf]
  | some a =>
      obtain ⟨l₁, l₂, hl, -, -, hmod⟩ := modifyFirst_split (f := f) hf
      rw [hl] at hx
      rw [hmod]
      simp only [mem_append, mem_cons] at hx ⊢
      rcases hx with h | rfl | h
      · exact Or.inl h
      · exact absurd rfl (hne x hf)
      · exact Or.inr (Or.inr h)

/-- A predicate the write preserves holds of every element afterwards. -/
theorem forall_modifyFirst {P : α → Prop} (hl : ∀ x ∈ l, P x)
    (hf : ∀ a, l.find? p = some a → P (f a)) : ∀ x ∈ l.modifyFirst p f, P x := by
  intro x hx
  rcases mem_modifyFirst hx with h | ⟨a, ha, rfl⟩
  · exact hl x h
  · exact hf a ha

/-- The written element is the first match again, provided it still matches. -/
theorem find?_modifyFirst (h : l.find? p = some a) (hp : p (f a) = true) :
    (l.modifyFirst p f).find? p = some (f a) := by
  obtain ⟨l₁, l₂, -, hnot, -, hmod⟩ := modifyFirst_split (f := f) h
  rw [hmod, find?_append]
  have hnone : l₁.find? p = none := find?_eq_none.mpr fun x hx => by simp [hnot x hx]
  simp [hnone, hp]

end List
