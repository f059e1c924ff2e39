/-
Association lists as hash maps.

`AList` from Mathlib is a list of entries with distinct keys.  Read as a hash map
its order is the order an iterator happens to visit the entries in, so a statement
that holds for every `AList` holds whatever the hash function does.  This file adds
the three operations Mathlib leaves out: the values in iteration order, `retain`,
and what a lookup sees after an in-place `replace`.  Writes under different keys commute, and
a map that is cut down to one key knows nothing of the others.
-/
import Mathlib.Data.List.AList

namespace AList

variable {κ : Type*} {α : Type*} [DecidableEq κ]

/-- The values, in iteration order. -/
def values (m : AList (fun _ : κ => α)) : List α :=
  m.entries.map Sigma.snd

/-- Keeps the entries that satisfy `p`. -/
def retain (p : κ → α → Bool) (m : AList (fun _ : κ => α)) : AList (fun _ : κ => α) :=
  ⟨m.entries.filter fun e => p e.1 e.2, m.nodupKeys.sublist List.filter_sublist⟩

variable {m : AList (fun _ : κ => α)}

theorem mem_values {a : α} : a ∈ m.values ↔ ∃ k, m.lookup k = some a := by
  simp only [values, List.mem_map]
  constructor
  · rintro ⟨⟨k, b⟩, hmem, rfl⟩
    exact ⟨k, mem_lookup_iff.mpr hmem⟩
  · rintro ⟨k, hk⟩
    exact ⟨⟨k, a⟩, mem_lookup_iff.mp hk, rfl⟩

theorem mem_entries_iff {e : Sigma fun _ : κ => α} :
    e ∈ m.entries ↔ m.lookup e.1 = some e.2 :=
  mem_lookup_iff.symm

theorem mem_iff_lookup {k : κ} : k ∈ m ↔ ∃ a, m.lookup k = some a := by
  rw [← lookup_isSome, Option.isSome_iff_exists]

omit [DecidableEq κ] in
/-- A map without keys is empty. -/
theorem eq_empty_of_notMem {m : AList (fun _ : κ => α)} (h : ∀ k, k ∉ m) : m = ∅ := by
  obtain ⟨entries, hnodup⟩ := m
  cases entries with
  | nil => rfl
  | cons entry rest => exact absurd (by simp [AList.mem_keys, AList.keys]) (h entry.1)

/-! ### Lookups after `retain` -/

theorem lookup_retain (p : κ → α → Bool) (k : κ) :
    (m.retain p).lookup k = (m.lookup k).filter (p k) := by
  apply Option.ext
  intro a
  have hleft : (m.retain p).lookup k = some a ↔
      (⟨k, a⟩ : Sigma fun _ : κ => α) ∈ m.entries ∧ p k a = true := by
    rw [← Option.mem_def, mem_lookup_iff]
    simp [retain]
  have hright : m.lookup k = some a ↔ (⟨k, a⟩ : Sigma fun _ : κ => α) ∈ m.entries := by
    rw [← Option.mem_def, mem_lookup_iff]
  rw [hleft, Option.filter_eq_some_iff, hright]

theorem lookup_retain_eq_some {p : κ → α → Bool} {k : κ} {a : α} :
    (m.retain p).lookup k = some a ↔ m.lookup k = some a ∧ p k a = true := by
  rw [lookup_retain, Option.filter_eq_some_iff]

/-! ### Lookups after `replace` -/

theorem kreplace_cons_self (k : κ) (a b : α) (l : List (Sigma fun _ : κ => α)) :
    List.kreplace k a (⟨k, b⟩ :: l) = ⟨k, a⟩ :: l :=
  List.lookmap_cons_some _ _ (by simp)

theorem kreplace_cons_of_ne {k : κ} {e : Sigma fun _ : κ => α} (a : α)
    (l : List (Sigma fun _ : κ => α)) (h : k ≠ e.1) :
    List.kreplace k a (e :: l) = e :: List.kreplace k a l :=
  List.lookmap_cons_none _ _ (by simp [h])

theorem lookup_kreplace (k j : κ) (a : α) (l : List (Sigma fun _ : κ => α)) :
    (List.kreplace k a l).dlookup j = if j = k then (l.dlookup k).map fun _ => a else l.dlookup j := by
  induction l with
  | nil => simp [List.kreplace]
  | cons e rest ih =>
      obtain ⟨x, b⟩ := e
      by_cases hk : k = x
      · subst hk
        rw [kreplace_cons_self]
        by_cases hj : j = k
        · subst hj; simp
        · rw [List.dlookup_cons_ne _ _ hj, if_neg hj, List.dlookup_cons_ne _ _ hj]
      · rw [kreplace_cons_of_ne a rest hk]
        by_cases hj : j = x
        · subst hj
          rw [List.dlookup_cons_eq, if_neg (Ne.symm hk), List.dlookup_cons_eq]
        · rw [List.dlookup_cons_ne _ _ hj, ih, List.dlookup_cons_ne _ _ hk,
            List.dlookup_cons_ne _ _ hj]

theorem lookup_replace (k j : κ) (a : α) :
    (m.replace k a).lookup j = if j = k then (m.lookup k).map fun _ => a else m.lookup j :=
  lookup_kreplace k j a m.entries

theorem lookup_replace_self {k : κ} {b : α} (a : α) (h : m.lookup k = some b) :
    (m.replace k a).lookup k = some a := by
  simp [lookup_replace, h]

theorem lookup_replace_of_ne {k j : κ} (a : α) (h : j ≠ k) :
    (m.replace k a).lookup j = m.lookup j := by
  simp [lookup_replace, h]

omit [DecidableEq κ] in
/-- No entry before one has its key. -/
theorem ne_of_split {k : κ} {b : α} {l₁ l₂ : List (Sigma fun _ : κ => α)}
    (hsplit : m.entries = l₁ ++ ⟨k, b⟩ :: l₂) : ∀ e ∈ l₁, k ≠ e.1 := by
  intro e he hk
  have hnd := m.nodupKeys
  rw [hsplit, List.nodupKeys_iff_pairwise, List.pairwise_append] at hnd
  exact hnd.2.2 e he ⟨k, b⟩ (by simp) hk.symm

/-- An in-place write leaves every other entry where it was. -/
theorem entries_replace_of_split {k : κ} {b : α} {l₁ l₂ : List (Sigma fun _ : κ => α)} (a : α)
    (hsplit : m.entries = l₁ ++ ⟨k, b⟩ :: l₂) : (m.replace k a).entries = l₁ ++ ⟨k, a⟩ :: l₂ := by
  have hnot : ∀ e ∈ l₁, k ≠ e.1 := ne_of_split hsplit
  show List.kreplace k a m.entries = _
  rw [hsplit]
  clear hsplit
  induction l₁ with
  | nil => exact kreplace_cons_self k a b l₂
  | cons e rest ih =>
      rw [List.cons_append, kreplace_cons_of_ne a _ (hnot e (by simp)),
        ih fun e' he' => hnot e' (by simp [he'])]
      rfl

theorem entries_replace {k : κ} {b : α} (a : α) (h : m.lookup k = some b) :
    ∃ l₁ l₂, m.entries = l₁ ++ ⟨k, b⟩ :: l₂ ∧ (m.replace k a).entries = l₁ ++ ⟨k, a⟩ :: l₂ := by
  have hmem : (⟨k, b⟩ : Sigma fun _ : κ => α) ∈ m.entries := mem_lookup_iff.mp h
  obtain ⟨l₁, l₂, hsplit⟩ := List.append_of_mem hmem
  exact ⟨l₁, l₂, hsplit, entries_replace_of_split a hsplit⟩

/-- The second of two writes to one entry is the one that counts. -/
theorem replace_replace {k : κ} {b : α} (a a' : α) (h : m.lookup k = some b) :
    (m.replace k a).replace k a' = m.replace k a' := by
  obtain ⟨l₁, l₂, hsplit, hfirst⟩ := entries_replace a h
  apply ext
  rw [entries_replace_of_split a' hfirst, entries_replace_of_split a' hsplit]

/-- Removing an entry forgets what was written to it. -/
theorem erase_replace {k : κ} {b : α} (a : α) (h : m.lookup k = some b) :
    ((m.replace k a).erase k).entries = (m.erase k).entries := by
  obtain ⟨l₁, l₂, hsplit, hfirst⟩ := entries_replace a h
  have hnot : ∀ e ∈ l₁, k ≠ e.1 := ne_of_split hsplit
  have herase : ∀ x : α, List.kerase k (l₁ ++ ⟨k, x⟩ :: l₂) = l₁ ++ l₂ := by
    intro x
    rw [List.kerase_append_right (by simpa [List.mem_keys] using fun y hy => hnot _ hy rfl)]
    simp
  show List.kerase k _ = List.kerase k _
  rw [hfirst, hsplit, herase, herase]

/-- Removing an entry that is not there changes nothing. -/
theorem erase_of_notMem {k : κ} (h : k ∉ m) : m.erase k = m := by
  apply ext
  exact List.kerase_of_notMem_keys h

/-! ### Writes under different keys -/

theorem kreplace_comm {k k' : κ} (h : k ≠ k') (a a' : α) (l : List (Sigma fun _ : κ => α)) :
    List.kreplace k a (List.kreplace k' a' l) = List.kreplace k' a' (List.kreplace k a l) := by
  induction l with
  | nil => rfl
  | cons e rest ih =>
      obtain ⟨x, b⟩ := e
      by_cases hk : k = x
      · subst hk
        rw [kreplace_cons_of_ne a' rest (Ne.symm h), kreplace_cons_self, kreplace_cons_self,
          kreplace_cons_of_ne a' rest (Ne.symm h)]
      · by_cases hk' : k' = x
        · subst hk'
          rw [kreplace_cons_self, kreplace_cons_of_ne a rest hk, kreplace_cons_of_ne a rest hk,
            kreplace_cons_self]
        · rw [kreplace_cons_of_ne a' rest hk', kreplace_cons_of_ne a _ hk,
            kreplace_cons_of_ne a rest hk, kreplace_cons_of_ne a' _ hk', ih]

theorem kerase_kreplace {k k' : κ} (h : k ≠ k') (a' : α) (l : List (Sigma fun _ : κ => α)) :
    List.kerase k (List.kreplace k' a' l) = List.kreplace k' a' (List.kerase k l) := by
  induction l with
  | nil => rfl
  | cons e rest ih =>
      obtain ⟨x, b⟩ := e
      by_cases hk : k = x
      · subst hk
        have hhead : ∀ l, List.kerase k ((⟨k, b⟩ : Sigma fun _ : κ => α) :: l) = l :=
          fun _ => List.kerase_cons_eq rfl
        rw [kreplace_cons_of_ne a' rest (Ne.symm h), hhead, hhead]
      · by_cases hk' : k' = x
        · subst hk'
          rw [kreplace_cons_self, List.kerase_cons_ne hk, List.kerase_cons_ne hk, kreplace_cons_self]
        · rw [kreplace_cons_of_ne a' rest hk', List.kerase_cons_ne hk, List.kerase_cons_ne hk,
            kreplace_cons_of_ne a' _ hk', ih]

theorem replace_comm {k k' : κ} (h : k ≠ k') (a a' : α) :
    (m.replace k a).replace k' a' = (m.replace k' a').replace k a :=
  ext (kreplace_comm (Ne.symm h) a' a m.entries)

theorem erase_replace_comm {k k' : κ} (h : k ≠ k') (a' : α) :
    (m.replace k' a').erase k = (m.erase k).replace k' a' :=
  ext (kerase_kreplace h a' m.entries)

/-! ### Lookups after `insert` -/

theorem lookup_insert' (k j : κ) (a : α) :
    (m.insert k a).lookup j = if j = k then some a else m.lookup j := by
  by_cases h : j = k
  · subst h; simp
  · simp [h, lookup_insert_ne h]

theorem lookup_erase' (k j : κ) :
    (m.erase k).lookup j = if j = k then none else m.lookup j := by
  by_cases h : j = k
  · subst h; simp
  · simp [h, lookup_erase_ne h]

/-- What is found after an entry was removed was there before. -/
theorem lookup_erase_eq_some {k j : κ} {a : α} (h : (m.erase k).lookup j = some a) :
    m.lookup j = some a := by
  rw [lookup_erase'] at h
  split at h
  · cases h
  · exact h

/-! ### One entry alone -/

theorem entries_retain_key (k : κ) :
    (m.retain fun j _ => j = k).entries = ((m.lookup k).map (Sigma.mk k)).toList := by
  cases hlookup : m.lookup k with
  | none =>
      refine List.filter_eq_nil_iff.mpr fun e he hkey => ?_
      obtain rfl := of_decide_eq_true hkey
      rw [mem_entries_iff.mp he] at hlookup
      cases hlookup
  | some a =>
      obtain ⟨l₁, l₂, hsplit⟩ := List.append_of_mem (mem_lookup_iff.mp hlookup)
      have hnd := m.nodupKeys
      rw [hsplit, List.nodupKeys_iff_pairwise, List.pairwise_append, List.pairwise_cons] at hnd
      have hfront : ∀ e ∈ l₁, ¬ decide (e.1 = k) = true := fun e he hkey =>
        ne_of_split hsplit e he (of_decide_eq_true hkey).symm
      have hback : ∀ e ∈ l₂, ¬ decide (e.1 = k) = true := fun e he hkey =>
        hnd.2.1.1 e he (of_decide_eq_true hkey).symm
      show m.entries.filter _ = _
      rw [hsplit, List.filter_append, List.filter_cons_of_pos (by simp),
        List.filter_eq_nil_iff.mpr hfront, List.filter_eq_nil_iff.mpr hback]
      rfl

/-- A map that has no key but one is what another map that agrees there keeps. -/
theorem retain_key_eq {m' : AList (fun _ : κ => α)} {k : κ} (hlookup : m'.lookup k = m.lookup k)
    (hkeys : ∀ j ∈ m', j = k) : (m.retain fun j _ => j = k) = m' := by
  have hself : (m'.retain fun j _ => j = k) = m' := by
    refine ext (List.filter_eq_self.mpr fun e he => ?_)
    simpa using hkeys e.1 (mem_keys.mpr (List.mem_map_of_mem he))
  rw [← hself]
  refine ext ?_
  rw [entries_retain_key, entries_retain_key, hlookup]

theorem retain_key_congr {m' : AList (fun _ : κ => α)} {k : κ} (h : m'.lookup k = m.lookup k) :
    (m'.retain fun j _ => j = k) = m.retain fun j _ => j = k := by
  refine ext ?_
  rw [entries_retain_key, entries_retain_key, h]

end AList
