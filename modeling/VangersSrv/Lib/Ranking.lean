/-
Ranking by a comparator.

A sort asks of its comparator that it is a total preorder on the list; the first of the sorted list
are then the best ones.  Members that compare with nothing and are taken to be equal to everything
break the order as soon as two others differ.
-/
import Mathlib.Data.List.Sort
import Mathlib.Order.Compare

namespace Ranking

variable {α κ : Type*} {cmp : α → α → Ordering} {l : List α}

/-- The comparator is a total preorder on the members of the list. -/
structure TotalPreorderOn (cmp : α → α → Ordering) (l : List α) : Prop where
  swap : ∀ a ∈ l, ∀ b ∈ l, cmp a b = (cmp b a).swap
  trans : ∀ a ∈ l, ∀ b ∈ l, ∀ c ∈ l, cmp a b ≠ .gt → cmp b c ≠ .gt → cmp a c ≠ .gt

/-- The list in the order of the comparator. -/
def sortBy (cmp : α → α → Ordering) (l : List α) : List α := l.insertionSort fun a b => cmp a b ≠ .gt

theorem perm_sortBy (cmp : α → α → Ordering) (l : List α) : (sortBy cmp l).Perm l :=
  List.perm_insertionSort _ l

theorem TotalPreorderOn.total (h : TotalPreorderOn cmp l) {a b : α} (ha : a ∈ l) (hb : b ∈ l) :
    cmp a b ≠ .gt ∨ cmp b a ≠ .gt := by
  rw [h.swap a ha b hb]
  cases cmp b a <;> simp

/-- A list is sorted by a comparator that orders its members. -/
theorem TotalPreorderOn.pairwise_sortBy (h : TotalPreorderOn cmp l) :
    (sortBy cmp l).Pairwise fun a b => cmp a b ≠ .gt := by
  -- the comparator orders the type of the members
  let r (a b : {a // a ∈ l}) : Prop := cmp a.1 b.1 ≠ .gt
  have htotal : Std.Total r := ⟨fun a b => h.total a.2 b.2⟩
  have htrans : IsTrans _ r := ⟨fun a b c => h.trans a.1 a.2 b.1 b.2 c.1 c.2⟩
  have hsorted := List.pairwise_insertionSort r l.attach
  have hmap : (l.attach.insertionSort r).map Subtype.val = sortBy cmp l := by
    rw [List.map_insertionSort r (fun a b => cmp a b ≠ .gt) Subtype.val l.attach fun _ _ _ _ => Iff.rfl,
      List.attach_map_subtype_val]
    rfl
  rw [← hmap, List.pairwise_map]
  exact hsorted

/-- **The first of a sorted list are the best of it.** -/
theorem TotalPreorderOn.best (h : TotalPreorderOn cmp l) (k : Nat) :
    ∃ rest, ((sortBy cmp l).take k ++ rest).Perm l ∧
      ((sortBy cmp l).take k).Pairwise (fun a b => cmp a b ≠ .gt) ∧
      ((sortBy cmp l).take k).length = min k l.length ∧
      ∀ a ∈ (sortBy cmp l).take k, ∀ b ∈ rest, cmp a b ≠ .gt := by
  have hsorted := h.pairwise_sortBy
  rw [← List.take_append_drop k (sortBy cmp l), List.pairwise_append] at hsorted
  refine ⟨(sortBy cmp l).drop k, ?_, hsorted.1, ?_, hsorted.2.2⟩
  · rw [List.take_append_drop]
    exact perm_sortBy cmp l
  · rw [List.length_take, (perm_sortBy cmp l).length_eq]

/-! ### Members without a value -/

variable [LinearOrder κ] {value : α → Option κ}

/-- The greater value comes first; what has no value is equal to everything. -/
def byValue (value : α → Option κ) (a b : α) : Ordering :=
  match value b, value a with
  | some x, some y => compare x y
  | _, _ => .eq

theorem byValue_of_none {a b : α} (h : value a = none ∨ value b = none) : byValue value a b = .eq := by
  unfold byValue
  rcases h with h | h <;> cases hb : value b <;> simp_all

theorem byValue_of_some {a b : α} {x y : κ} (ha : value a = some x) (hb : value b = some y) :
    byValue value a b = compare y x := by
  unfold byValue
  rw [ha, hb]

/-- The comparator says `gt` when the second value is the greater. -/
theorem byValue_eq_gt {a b : α} :
    byValue value a b = .gt ↔ ∃ x y, value a = some x ∧ value b = some y ∧ x < y := by
  cases ha : value a with
  | none => simp [byValue_of_none (Or.inl ha)]
  | some x =>
      cases hb : value b with
      | none => simp [byValue_of_none (Or.inr hb)]
      | some y => simp [byValue_of_some ha hb, compare_gt_iff_gt]

theorem byValue_swap (a b : α) : byValue value a b = (byValue value b a).swap := by
  cases ha : value a with
  | none => rw [byValue_of_none (Or.inl ha), byValue_of_none (Or.inr ha)]; rfl
  | some x =>
      cases hb : value b with
      | none => rw [byValue_of_none (Or.inr hb), byValue_of_none (Or.inl hb)]; rfl
      | some y => rw [byValue_of_some ha hb, byValue_of_some hb ha, Std.OrientedOrd.eq_swap]

/-- **The comparator orders the list exactly when all members have a value, or no two values
differ.** -/
theorem totalPreorderOn_byValue_iff :
    TotalPreorderOn (byValue value) l ↔
      (∀ a ∈ l, value a ≠ none) ∨
        ∀ a ∈ l, ∀ b ∈ l, value a ≠ none → value b ≠ none → value a = value b := by
  constructor
  · intro h
    by_cases hall : ∃ n ∈ l, value n = none
    swap
    · exact Or.inl fun a ha hnone => hall ⟨a, ha, hnone⟩
    obtain ⟨n, hn, hnone⟩ := hall
    refine Or.inr fun a ha b hb hsa hsb => ?_
    obtain ⟨x, hx⟩ := Option.ne_none_iff_exists'.mp hsa
    obtain ⟨y, hy⟩ := Option.ne_none_iff_exists'.mp hsb
    -- both are equal to the member without a value
    have hle : ∀ c ∈ l, ∀ d ∈ l, byValue value c d ≠ .gt := by
      intro c hc d hd
      refine h.trans c hc n hn d hd ?_ ?_
      · simp [byValue_of_none (Or.inr hnone)]
      · simp [byValue_of_none (Or.inl hnone)]
    have hyx : y ≤ x := not_lt.mp fun hlt => hle a ha b hb (byValue_eq_gt.mpr ⟨x, y, hx, hy, hlt⟩)
    have hxy : x ≤ y := not_lt.mp fun hlt => hle b hb a ha (byValue_eq_gt.mpr ⟨y, x, hy, hx, hlt⟩)
    rw [hx, hy, le_antisymm hxy hyx]
  · intro h
    refine ⟨fun a _ b _ => byValue_swap a b, fun a ha b hb c hc hab hbc => ?_⟩
    rw [ne_eq, byValue_eq_gt] at hab hbc ⊢
    rintro ⟨x, z, hx, hz, hlt⟩
    rcases h with h | h
    · obtain ⟨y, hy⟩ := Option.ne_none_iff_exists'.mp (h b hb)
      have hxy : y ≤ x := not_lt.mp fun hlt' => hab ⟨x, y, hx, hy, hlt'⟩
      have hyz : z ≤ y := not_lt.mp fun hlt' => hbc ⟨y, z, hy, hz, hlt'⟩
      exact absurd hlt (not_lt.mpr (hyz.trans hxy))
    · have heq := h a ha c hc (by simp [hx]) (by simp [hz])
      rw [hx, hz, Option.some.injEq] at heq
      exact absurd hlt (by rw [heq]; exact lt_irrefl _)

end Ranking
