/-
The names players register.

A request is a name and a password, each with its terminator.  The name is cut, and then its
control characters are replaced, on the bytes with the terminator: the two steps leave the
terminator where it is, so nothing that relies on it can fail.
-/
import VangersSrv.Callback.Session

namespace VangersSrv

/-! ### What a request says -/

/-- A payload with the name `n` and the password `w`. -/
def IsRegistration (d n w : Bytes) : Prop :=
  n ≠ [] ∧ 0 ∉ n ∧ 0 ∉ w ∧ ∃ rest, d = n ++ [0] ++ w ++ [0] ++ rest

def cleanByte (c : UInt8) : UInt8 := if c = 127 ∨ (0 < c ∧ c < 32) then 42 else c

/-- A name of more than 16 bytes is cut to 15, and control characters are replaced. -/
def cleanName (n : Bytes) : Bytes := (if 16 < n.length then n.take 15 else n).map cleanByte

/-- A name that needs no cleaning. -/
structure IsClean (name : Bytes) : Prop where
  nonempty : name ≠ []
  short : name.length ≤ 16
  noZero : 0 ∉ name
  noControl : ∀ c ∈ name, 32 ≤ c ∧ c ≠ 127
  fixed : cleanName name = name

/-- `CString::from_vec_with_nul`: the last byte is zero, and it is the only one. -/
def fromVecWithNul (v : Bytes) : Option Bytes :=
  if v.getLast? = some 0 ∧ 0 ∉ v.dropLast then some v.dropLast else none

/-- `name.count_bytes() > 16`: the first 15 bytes with a terminator of their own. -/
def cutExpecting (name : Bytes) : Option Bytes :=
  if 16 < name.length then fromVecWithNul ((withNul name).take 15 ++ [0]) else some name

/-- The filter for non-printable bytes runs over the terminator too. -/
def filterExpecting (name : Bytes) : Option Bytes :=
  if name.any fun c => c < 32 || c = 127 then
    fromVecWithNul ((withNul name).map fun c => if c = 127 ∨ (0 < c ∧ c < 32) then 42 else c)
  else some name

/-- `extract_auth_data` with its two calls of `expect`, which panic on `None`. -/
def extractAuthDataExpecting (data : Bytes) : Option (Except RegisterNameError (Bytes × Bytes)) :=
  match cstrUntilNul data with
  | none => some (.error .nameOrPasswordParse)
  | some name =>
    if name = [] then some (.error .nameIsNull)
    else if data.length ≤ (withNul name).length then some (.error .nameOrPasswordParse)
    else
      match cstrUntilNul (data.drop (withNul name).length) with
      | none => some (.error .nameOrPasswordParse)
      | some pwd => do
        let cut ← cutExpecting name
        let clean ← filterExpecting cut
        some (.ok (clean, pwd))

section

variable {d n w name pwd cut : Bytes} {c : UInt8}

/-! ### Cleaning -/

theorem cleanByte_eq_zero : cleanByte c = 0 ↔ c = 0 := by
  unfold cleanByte
  split
  · rename_i h
    refine iff_of_false (by decide) ?_
    rintro rfl
    exact absurd h (by decide)
  · exact Iff.rfl

/-- A byte that is not zero is no control character when it is cleaned. -/
theorem cleanByte_printable (h : c ≠ 0) : 32 ≤ cleanByte c ∧ cleanByte c ≠ 127 := by
  unfold cleanByte
  split
  · decide
  · rename_i hnot
    obtain ⟨hne, hlow⟩ := not_or.mp hnot
    have hpos : 0 < c := UInt8.pos_iff_ne_zero.mpr h
    exact ⟨UInt8.not_lt.mp fun hlt => hlow ⟨hpos, hlt⟩, hne⟩

theorem cleanByte_of_printable (h : 32 ≤ c ∧ c ≠ 127) : cleanByte c = c := by
  refine if_neg ?_
  rintro (hdel | ⟨-, hlow⟩)
  · exact h.2 hdel
  · exact UInt8.not_lt.mpr h.1 hlow

theorem map_cleanByte (h : ∀ c ∈ name, 32 ≤ c ∧ c ≠ 127) : name.map cleanByte = name := by
  refine (List.map_congr_left fun c hc => ?_).trans (List.map_id name)
  exact cleanByte_of_printable (h c hc)

/-- The filter is only run where it changes something. -/
theorem filter_eq :
    (if cut.any fun c => c < 32 || c = 127 then cut.map cleanByte else cut) = cut.map cleanByte := by
  split
  · rfl
  · rename_i hnone
    refine (map_cleanByte fun c hc => ?_).symm
    simp only [List.any_eq_true, Bool.or_eq_true, decide_eq_true_eq, not_exists, not_and,
      not_or] at hnone
    exact ⟨UInt8.not_lt.mp (hnone c hc).1, (hnone c hc).2⟩

theorem cut_facts (hne : n ≠ []) (hzero : 0 ∉ n) :
    (if 16 < n.length then n.take 15 else n) ≠ [] ∧
      (if 16 < n.length then n.take 15 else n).length ≤ 16 ∧
      0 ∉ (if 16 < n.length then n.take 15 else n) := by
  split
  · rename_i hlong
    refine ⟨?_, ?_, fun hmem => hzero (List.mem_of_mem_take hmem)⟩
    · rw [ne_eq, List.take_eq_nil_iff]
      exact fun h => h.elim (by decide) hne
    · rw [List.length_take]
      omega
  · exact ⟨hne, by omega, hzero⟩

theorem isClean_cleanName (hne : n ≠ []) (hzero : 0 ∉ n) : IsClean (cleanName n) := by
  obtain ⟨hcut, hshort, hnot⟩ := cut_facts hne hzero
  unfold cleanName
  generalize (if 16 < n.length then n.take 15 else n) = cut at hcut hshort hnot
  have hprintable : ∀ c ∈ cut.map cleanByte, 32 ≤ c ∧ c ≠ 127 := by
    intro c hc
    obtain ⟨a, ha, rfl⟩ := List.mem_map.mp hc
    exact cleanByte_printable fun hzero => hnot (hzero ▸ ha)
  refine ⟨by simpa using hcut, by simpa using hshort, ?_, hprintable, ?_⟩
  · intro hmem
    exact absurd (hprintable 0 hmem).1 (by decide)
  · unfold cleanName
    rw [List.length_map, if_neg (by omega)]
    exact map_cleanByte hprintable

/-! ### The grammar -/

theorem isRegistration_iff :
    IsRegistration d n w ↔ n ≠ [] ∧ cstrUntilNul d = some n ∧
      (withNul n).length < d.length ∧ cstrUntilNul (d.drop (withNul n).length) = some w := by
  constructor
  · rintro ⟨hne, hn, hw, rest, rfl⟩
    have hd : n ++ [0] ++ w ++ [0] ++ rest = withNul n ++ (withNul w ++ rest) := by
      simp [withNul]
    rw [hd, List.drop_left, List.length_append]
    refine ⟨hne, cstrUntilNul_withNul hn, ?_, cstrUntilNul_withNul hw⟩
    simp [withNul]
  · rintro ⟨hne, hn, -, hw⟩
    obtain ⟨hnot, tail, rfl⟩ := cstrUntilNul_eq_some hn
    rw [List.drop_left] at hw
    obtain ⟨hnot', rest, rfl⟩ := cstrUntilNul_eq_some hw
    exact ⟨hne, hnot, hnot', rest, by simp [withNul]⟩

/-- **A request is accepted exactly when it is a registration.** -/
theorem extractAuthData_ok_iff :
    Server.extractAuthData d = .ok (name, pwd) ↔ ∃ n, IsRegistration d n pwd ∧ name = cleanName n := by
  simp only [isRegistration_iff]
  unfold Server.extractAuthData
  cases hn : cstrUntilNul d with
  | none => simp
  | some n =>
      simp only [Option.some.injEq]
      split
      · rename_i hempty
        subst hempty
        refine iff_of_false nofun ?_
        rintro ⟨_, ⟨hne, rfl, -⟩, -⟩
        exact hne rfl
      split
      · rename_i hshort
        refine iff_of_false nofun ?_
        rintro ⟨_, ⟨-, rfl, hlt, -⟩, -⟩
        omega
      rename_i hne hlong
      cases hw : cstrUntilNul (d.drop (withNul n).length) with
      | none =>
          refine iff_of_false nofun ?_
          rintro ⟨_, ⟨-, rfl, -, hw'⟩, -⟩
          rw [hw] at hw'
          cases hw'
      | some w =>
          simp only [Except.ok.injEq, Prod.mk.injEq]
          constructor
          · rintro ⟨rfl, rfl⟩
            exact ⟨n, ⟨hne, rfl, by omega, hw⟩, filter_eq⟩
          · rintro ⟨_, ⟨-, rfl, -, hw'⟩, rfl⟩
            rw [hw] at hw'
            exact ⟨filter_eq, Option.some.inj hw'⟩

theorem fromVecWithNul_append (h : 0 ∉ name) : fromVecWithNul (name ++ [0]) = some name := by
  unfold fromVecWithNul
  rw [List.dropLast_concat, if_pos ⟨by simp, h⟩]

theorem cutExpecting_eq (hzero : 0 ∉ n) :
    cutExpecting n = some (if 16 < n.length then n.take 15 else n) := by
  unfold cutExpecting
  split
  · have htake : (withNul n).take 15 = n.take 15 := List.take_append_of_le_length (by omega)
    rw [htake]
    exact fromVecWithNul_append fun hmem => hzero (List.mem_of_mem_take hmem)
  · rfl

theorem filterExpecting_eq (hzero : 0 ∉ cut) :
    filterExpecting cut
      = some (if cut.any fun c => c < 32 || c = 127 then cut.map cleanByte else cut) := by
  unfold filterExpecting
  split
  · have hmap : (withNul cut).map cleanByte = cut.map cleanByte ++ [0] := List.map_append
    refine (congrArg fromVecWithNul hmap).trans (fromVecWithNul_append fun hmem => ?_)
    obtain ⟨c, hc, hc0⟩ := List.mem_map.mp hmem
    exact hzero (cleanByte_eq_zero.mp hc0 ▸ hc)
  · rfl

/-- **The two calls of `expect` do not panic.** -/
theorem extractAuthDataExpecting_eq :
    extractAuthDataExpecting d = some (Server.extractAuthData d) := by
  unfold extractAuthDataExpecting Server.extractAuthData
  cases hn : cstrUntilNul d with
  | none => rfl
  | some n =>
      obtain ⟨hzero, -⟩ := cstrUntilNul_eq_some hn
      dsimp only
      split
      · rfl
      split
      · rfl
      rename_i hne hlong
      cases hw : cstrUntilNul (d.drop (withNul n).length) with
      | none => rfl
      | some w =>
          obtain ⟨-, -, hnot⟩ := cut_facts hne hzero
          dsimp only
          rw [cutExpecting_eq hzero, Option.bind_eq_bind, Option.bind_some, filterExpecting_eq hnot]
          rfl

theorem extractAuthData_isClean (h : Server.extractAuthData d = .ok (name, pwd)) : IsClean name := by
  obtain ⟨n, ⟨hne, hzero, -⟩, rfl⟩ := extractAuthData_ok_iff.mp h
  exact isClean_cleanName hne hzero

/-- A name with its terminator is stored as it is. -/
theorem Auth.new_withNul (random name : Bytes) : (Auth.new random (withNul name)).name = withNul name := by
  unfold Auth.new withNul
  rw [List.getLast?_append]
  rfl

end

end VangersSrv
