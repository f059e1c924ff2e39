/-
Replicas kept by notifications.

A store and a replica of it are both functions from keys to values.  A message does to each key
one of three things: nothing, a value, or nothing stored.  So messages in a row act by the
last one that touches a key, and a replica stays right through a change of the store when at
every key in sight the messages either leave it as it is, and so does the change, or
write what the change does (`Follows`).
-/
import Mathlib.Data.List.Basic
import Mathlib.Data.Option.Basic

namespace Replica

variable {κ V : Type*}

/-- What is known at each key. -/
abbrev View (κ V : Type*) := κ → Option V

/-- What a message does to each key: `none` leaves it alone. -/
def Write (κ V : Type*) := κ → Option (Option V)

namespace Write

def skip : Write κ V := fun _ => none

def clear : Write κ V := fun _ => some none

def put [DecidableEq κ] (k : κ) (v : V) : Write κ V := fun j => if j = k then some (some v) else none

def drop [DecidableEq κ] (k : κ) : Write κ V := fun j => if j = k then some none else none

/-- One message after the other. -/
def andThen (w w' : Write κ V) : Write κ V := fun k => (w' k).or (w k)

/-- Messages in their order. -/
def all (l : List (Write κ V)) : Write κ V := l.foldr andThen skip

/-- The replica after a message. -/
def on (w : Write κ V) (r : View κ V) : View κ V := fun k => (w k).getD (r k)

variable {w w' : Write κ V} {l l' : List (Write κ V)} {r : View κ V} {k : κ}

@[simp] theorem skip_andThen : skip.andThen w = w := by
  funext k
  simp [andThen, skip]

@[simp] theorem andThen_skip : w.andThen skip = w := by
  funext k
  simp [andThen, skip]

theorem andThen_assoc (w₁ w₂ w₃ : Write κ V) :
    (w₁.andThen w₂).andThen w₃ = w₁.andThen (w₂.andThen w₃) := by
  funext k
  simp [andThen, Option.or_assoc]

@[simp] theorem andThen_self : w.andThen w = w := by
  funext k
  simp [andThen]

@[simp] theorem skip_on : skip.on r = r := rfl

theorem andThen_on : (w.andThen w').on r = w'.on (w.on r) := by
  funext k
  cases h : w' k <;> simp [on, andThen, h]

theorem put_on [DecidableEq κ] {v : V} :
    (put k v).on r = fun j => if j = k then some v else r j := by
  funext j
  simp only [on, put]
  split <;> rfl

theorem drop_on [DecidableEq κ] : (drop k).on r = fun j => if j = k then none else r j := by
  funext j
  simp only [on, drop]
  split <;> rfl

@[simp] theorem all_nil : all ([] : List (Write κ V)) = skip := rfl

@[simp] theorem all_cons : all (w :: l) = w.andThen (all l) := rfl

theorem all_append : all (l ++ l') = (all l).andThen (all l') := by
  induction l with
  | nil => simp
  | cons w rest ih => simp [ih, andThen_assoc]

/-- The same message any number of times. -/
theorem all_eq_of_forall (h : ∀ w' ∈ l, w' = w) : all l = if l = [] then skip else w := by
  induction l with
  | nil => rfl
  | cons w' rest ih =>
      have hrest := ih fun x hx => h x (List.mem_cons_of_mem _ hx)
      rw [h w' List.mem_cons_self, all_cons, hrest, if_neg (List.cons_ne_nil _ _)]
      split
      · exact andThen_skip
      · exact andThen_self

/-- A key that no message touches. -/
theorem all_eq_none (h : ∀ w ∈ l, w k = none) : all l k = none := by
  induction l with
  | nil => rfl
  | cons w rest ih =>
      have hrest := ih fun x hx => h x (List.mem_cons_of_mem _ hx)
      simp [andThen, hrest, h w List.mem_cons_self]

/-- A key that every message which touches it leaves in one state. -/
theorem all_eq_some {x : Option V} (h : ∀ w ∈ l, w k = none ∨ w k = some x)
    (hone : ∃ w ∈ l, w k = some x) : all l k = some x := by
  induction l with
  | nil => simp at hone
  | cons w rest ih =>
      have hrest : ∀ w ∈ rest, w k = none ∨ w k = some x :=
        fun y hy => h y (List.mem_cons_of_mem _ hy)
      by_cases hmore : ∃ w ∈ rest, w k = some x
      · simp [andThen, ih hrest hmore]
      · have hnone : all rest k = none := by
          refine all_eq_none fun y hy => (hrest y hy).resolve_right fun hx => hmore ⟨y, hy, hx⟩
        obtain ⟨y, hy, hx⟩ := hone
        rcases List.mem_cons.mp hy with rfl | hy
        · simp [andThen, hnone, hx]
        · exact absurd ⟨y, hy, hx⟩ hmore

/-- What is done to a key, some message did. -/
theorem exists_of_all {x : Option V} (h : all l k = some x) : ∃ w ∈ l, w k = some x := by
  induction l with
  | nil => cases h
  | cons w rest ih =>
      simp only [all_cons, andThen, Option.or_eq_some_iff] at h
      rcases h with hrest | ⟨-, hw⟩
      · obtain ⟨w', hw', hx⟩ := ih hrest
        exact ⟨w', List.mem_cons_of_mem _ hw', hx⟩
      · exact ⟨w, List.mem_cons_self, hw⟩

theorem all_eq_skip (h : ∀ w ∈ l, w = skip) : all l = skip :=
  funext fun _ => all_eq_none fun w hw => by rw [h w hw]; rfl

/-- Messages that write nothing may be left out. -/
theorem all_filter {α : Type*} {f : α → Write κ V} {p : α → Bool} {as : List α}
    (h : ∀ a ∈ as, p a = false → f a = skip) : all ((as.filter p).map f) = all (as.map f) := by
  induction as with
  | nil => rfl
  | cons a as ih =>
      have hrest := ih fun a' ha' => h a' (List.mem_cons_of_mem _ ha')
      cases hp : p a with
      | true => rw [List.filter_cons_of_pos hp, List.map_cons, List.map_cons, all_cons, all_cons, hrest]
      | false =>
          rw [List.filter_cons_of_neg (by simp [hp]), List.map_cons, all_cons, hrest,
            h a List.mem_cons_self hp, skip_andThen]

/-! ### Messages that may change places -/

/-- No key is touched by both. -/
def Apart (w w' : Write κ V) : Prop := ∀ k, w k = none ∨ w' k = none

theorem Apart.symm (h : Apart w w') : Apart w' w := fun k => (h k).symm

theorem Apart.comm (h : Apart w w') : w.andThen w' = w'.andThen w := by
  funext k
  rcases h k with hw | hw
  · simp [andThen, hw]
  · simp [andThen, hw]

theorem apart_all (h : ∀ w' ∈ l, Apart w w') : Apart w (all l) := by
  intro k
  by_cases hw : w k = none
  · exact Or.inl hw
  · exact Or.inr (all_eq_none fun w' hw' => (h w' hw' k).resolve_left hw)

/-- A message goes past those that it is apart from. -/
theorem all_snoc_comm (h : ∀ w' ∈ l, Apart w w') : all (l ++ [w]) = all (w :: l) := by
  rw [all_append, all_cons, all_cons, all_nil, andThen_skip]
  exact (apart_all h).symm.comm

end Write

/-! ### Following a store -/

/-- Messages follow a change of the store at the keys in sight.  An owner also makes changes
that it is not told about. -/
def Follows (owner : Prop) (sees : κ → Prop) (σ σ' : View κ V) (w : Write κ V) : Prop :=
  ∀ k, sees k → w k = some (σ' k) ∨ w k = none ∧ (owner ∨ σ' k = σ k)

/-- A replica is right at the keys in sight: what is shown of the store is in it, and what is in
it is in the store. -/
structure Agrees (sees : κ → Prop) (shown : κ → V → Prop) (σ r : View κ V) : Prop where
  stored : ∀ k v, sees k → σ k = some v → shown k v → r k = some v
  known : ∀ k v, sees k → r k = some v → σ k = some v

/-- What an owner does to its replica: the changes of the store. -/
def mirror [DecidableEq V] (σ σ' r : View κ V) : View κ V :=
  fun k => if σ' k = σ k then r k else σ' k

section

variable {sees : κ → Prop} {shown : κ → V → Prop} {σ σ' σ'' r : View κ V} {w w' : Write κ V}
  {owner : Prop}

theorem Follows.refl (h : ∀ k, sees k → w k = none) : Follows owner sees σ σ w :=
  fun k hk => Or.inr ⟨h k hk, Or.inr rfl⟩

/-- Every message says what the store has. -/
theorem Follows.replay (h : ∀ k x, w k = some x → x = σ k) : Follows owner sees σ σ w := by
  intro k _
  cases hw : w k with
  | none => exact Or.inr ⟨rfl, Or.inr rfl⟩
  | some x => exact Or.inl (by rw [h k x hw])

/-- A message that says what the change does, to whom it concerns. -/
theorem Follows.told {s : Write κ V} (hon : σ' = w.on σ) (hor : s = w ∨ s = Write.skip)
    (htold : ∀ k, sees k → w k ≠ none → s = w) : Follows owner sees σ σ' s := by
  intro k hk
  cases hw : w k with
  | some x =>
      rw [htold k hk (by simp [hw]), hon, hw]
      exact Or.inl (by simp [Write.on, hw])
  | none =>
      have hs : s k = none := by
        rcases hor with rfl | rfl
        · exact hw
        · rfl
      exact Or.inr ⟨hs, Or.inr (by simp [hon, Write.on, hw])⟩

theorem Follows.mono {owner' : Prop} (h : Follows owner sees σ σ' w) (himp : owner → owner') :
    Follows owner' sees σ σ' w := by
  intro k hk
  exact (h k hk).imp_right fun ⟨hw, hor⟩ => ⟨hw, hor.imp_left himp⟩

/-- One change after the other; an owner is told nothing before its own. -/
theorem Follows.trans (h : Follows False sees σ σ' w) (h' : Follows owner sees σ' σ'' w')
    (hquiet : owner → w = Write.skip) : Follows owner sees σ σ'' (w.andThen w') := by
  intro k hk
  rcases h' k hk with hw' | ⟨hw', howner | hσ'⟩
  · exact Or.inl (by simp [Write.andThen, hw'])
  · rw [hquiet howner]
    exact Or.inr ⟨by simpa using hw', Or.inl howner⟩
  · rcases h k hk with hw | ⟨hw, hσ⟩
    · exact Or.inl (by simp [Write.andThen, hw', hw, hσ'])
    · rw [or_iff_right not_false] at hσ
      exact Or.inr ⟨by simp [Write.andThen, hw', hw], Or.inr (hσ'.trans hσ)⟩

/-- **A replica that is told of a change stays right.** -/
theorem Agrees.follow (h : Agrees sees shown σ r) (hf : Follows False sees σ σ' w) :
    Agrees sees shown σ' (w.on r) := by
  constructor
  · intro k v hk hv hshown
    rcases hf k hk with hw | ⟨hw, hσ⟩
    · simpa [Write.on, hw] using hv
    · rw [or_iff_right not_false] at hσ
      rw [Write.on, hw, Option.getD_none]
      exact h.stored k v hk (hσ ▸ hv) hshown
  · intro k v hk hv
    rcases hf k hk with hw | ⟨hw, hσ⟩
    · simpa [Write.on, hw] using hv
    · rw [or_iff_right not_false] at hσ
      rw [Write.on, hw, Option.getD_none] at hv
      exact hσ ▸ h.known k v hk hv

/-- **So does the replica of an owner that takes its own changes over.** -/
theorem Agrees.followMirror [DecidableEq V] (h : Agrees sees shown σ r)
    (hf : Follows True sees σ σ' w) : Agrees sees shown σ' (mirror σ σ' (w.on r)) := by
  have hvalue : ∀ k, sees k →
      mirror σ σ' (w.on r) k = σ' k ∨ mirror σ σ' (w.on r) k = r k ∧ σ' k = σ k := by
    intro k hk
    unfold mirror
    split
    · rename_i hsame
      rcases hf k hk with hw | ⟨hw, -⟩
      · exact Or.inl (by simp [Write.on, hw])
      · exact Or.inr ⟨by simp [Write.on, hw], hsame⟩
    · exact Or.inl rfl
  constructor
  · intro k v hk hv hshown
    rcases hvalue k hk with hnew | ⟨hold, hσ⟩
    · rw [hnew, hv]
    · rw [hold]
      exact h.stored k v hk (hσ ▸ hv) hshown
  · intro k v hk hv
    rcases hvalue k hk with hnew | ⟨hold, hσ⟩
    · rw [← hnew, hv]
    · rw [hold] at hv
      exact hσ ▸ h.known k v hk hv

/-- A replica that is emptied and told everything that is shown is right. -/
theorem Agrees.fresh (hall : ∀ k v, sees k → σ k = some v → shown k v → w k = some (some v))
    (honly : ∀ k, sees k → ∃ x, w k = some x ∧ ∀ v, x = some v → σ k = some v) :
    Agrees sees shown σ (w.on r) := by
  constructor
  · intro k v hk hv hshown
    simp [Write.on, hall k v hk hv hshown]
  · intro k v hk hv
    obtain ⟨x, hx, hσ⟩ := honly k hk
    rw [Write.on, hx, Option.getD_some] at hv
    exact hσ v hv

end

/-! ### Replicas that have at least what is stored -/

/-- A replica has what is stored at the keys in sight; what is not stored it may still have. -/
def Covers (sees : κ → Prop) (σ r : View κ V) : Prop := ∀ k v, sees k → σ k = some v → r k = some v

/-- What a change leaves stored at the keys in sight, the messages say, or they leave it alone and
so did the change. -/
def Tells (sees : κ → Prop) (σ σ' : View κ V) (w : Write κ V) : Prop :=
  ∀ k v, sees k → σ' k = some v → w k = some (some v) ∨ w k = none ∧ σ k = some v

section

variable {sees : κ → Prop} {σ σ' σ'' r : View κ V} {w w' : Write κ V}

theorem Covers.refl : Covers sees σ σ := fun _ _ _ hv => hv

/-- **A replica that is told what a change leaves has it.** -/
theorem Covers.tell (h : Covers sees σ r) (ht : Tells sees σ σ' w) : Covers sees σ' (w.on r) := by
  intro k v hk hv
  rcases ht k v hk hv with hw | ⟨hw, hσ⟩
  · simp [Write.on, hw]
  · simpa [Write.on, hw] using h k v hk hσ

theorem Tells.refl (h : ∀ k, sees k → w k = none) : Tells sees σ σ w :=
  fun k _ hk hv => Or.inr ⟨h k hk, hv⟩

/-- One change after the other. -/
theorem Tells.trans (h : Tells sees σ σ' w) (h' : Tells sees σ' σ'' w') :
    Tells sees σ σ'' (w.andThen w') := by
  intro k v hk hv
  rcases h' k v hk hv with hw' | ⟨hw', hσ'⟩
  · exact Or.inl (by simp [Write.andThen, hw'])
  · rcases h k v hk hσ' with hw | ⟨hw, hσ⟩
    · exact Or.inl (by simp [Write.andThen, hw', hw])
    · exact Or.inr ⟨by simp [Write.andThen, hw', hw], hσ⟩

end

end Replica
