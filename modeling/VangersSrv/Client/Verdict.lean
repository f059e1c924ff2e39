/-
What becomes of a handshake.

`auth` looks at all it has received after every read.  What it makes of it, if anything, does
not change when more bytes come (`examine_append`), so the verdict on a stream is the same
wherever the reads cut it, and `Opening` says what it is.
-/
import VangersSrv.Client.Handshake

namespace VangersSrv

/-- What a stream begins with, and what the loop makes of that. -/
inductive Opening : Bytes → Examined → Prop
  /-- A byte differs from the greeting. -/
  | wrong {stream : Bytes} (h : ¬ stream <+: hsIn) (h' : ¬ hsIn <+: stream) :
      Opening stream (.refused .hsUnexpectedRequestHeader)
  /-- Part of the greeting, or all of it. -/
  | part {stream : Bytes} (h : stream <+: hsIn) : Opening stream .incomplete
  /-- The byte after the greeting is not zero. -/
  | unterminated {b : UInt8} {more : Bytes} (h : b ≠ 0) :
      Opening (hsIn ++ b :: more) (.refused .hsZeroTerminated)
  /-- The version is still to come. -/
  | terminated : Opening (hsIn ++ [0]) .incomplete
  | versioned {v : UInt8} {more : Bytes} : Opening (hsIn ++ 0 :: v :: more) (.version v)

/-- What `auth` returns and writes on what it has made of the stream. -/
def answer (writes : Bool) : Examined → Except AuthError UInt8 × Bytes
  | .incomplete => (.error .closedByClient, [])
  | .refused error => (.error error, [])
  | .version v =>
    if writes = false then (.error .hsResponse, [])
    else if v ≠ protocolVersion then
      (.error (.hsUnexpectedProtocolVersion [protocolVersion] v), handshakeResponse protocolVersion)
    else (.ok v, handshakeResponse v)

section

variable {received stream more : Bytes} {chunks : List Bytes} {writes : Bool} {e : Examined}
  {v : UInt8}

/-! ### What the loop makes of the bytes -/

/-- The comparison of the common part. -/
theorem take_min_eq_iff {s t : Bytes} :
    s.take (min s.length t.length) = t.take (min s.length t.length) ↔ s <+: t ∨ t <+: s := by
  rcases Nat.le_total s.length t.length with hle | hle
  · rw [Nat.min_eq_left hle, List.take_length]
    constructor
    · intro h
      exact Or.inl (List.prefix_iff_eq_take.mpr h)
    · rintro (h | h)
      · exact List.prefix_iff_eq_take.mp h
      · have hlen := Nat.le_antisymm hle h.length_le
        rw [h.eq_of_length hlen.symm, List.take_length]
  · rw [Nat.min_eq_right hle, List.take_length]
    constructor
    · intro h
      exact Or.inr (List.prefix_iff_eq_take.mpr h.symm)
    · rintro (h | h)
      · have hlen := Nat.le_antisymm hle h.length_le
        rw [h.eq_of_length hlen.symm, List.take_length]
      · exact (List.prefix_iff_eq_take.mp h).symm

theorem examine_wrong (h : ¬ stream <+: hsIn) (h' : ¬ hsIn <+: stream) :
    examine stream = .refused .hsUnexpectedRequestHeader :=
  if_pos fun heq => (take_min_eq_iff.mp heq).elim h h'

theorem examine_part (h : stream <+: hsIn) : examine stream = .incomplete := by
  have hle := h.length_le
  have hget : stream[hsIn.length + 1]? = none := List.getElem?_eq_none (by omega)
  have hshort : ¬ (hsIn.length < stream.length ∧ stream[hsIn.length]? ≠ some 0) := by omega
  unfold examine
  dsimp only
  rw [if_neg (not_not.mpr (take_min_eq_iff.mpr (Or.inl h))), if_neg hshort, hget]
  split <;> rfl

theorem examine_greeting {b : UInt8} :
    examine (hsIn ++ b :: more)
      = if b ≠ 0 then .refused .hsZeroTerminated
        else match more.head? with
          | none => .incomplete
          | some v => .version v := by
  have hpre : hsIn <+: hsIn ++ b :: more := List.prefix_append _ _
  have hlong : ¬ (hsIn ++ b :: more).length < hsIn.length := by simp
  have hlong' : hsIn.length < (hsIn ++ b :: more).length := by simp
  have hbyte : (hsIn ++ b :: more)[hsIn.length]? = some b := by simp
  have hversion : (hsIn ++ b :: more)[hsIn.length + 1]? = more.head? := by
    rw [List.getElem?_append_right (Nat.le_add_right _ _), Nat.add_sub_cancel_left,
      List.getElem?_cons_succ, List.head?_eq_getElem?]
  unfold examine
  dsimp only
  rw [if_neg (not_not.mpr (take_min_eq_iff.mpr (Or.inr hpre))), if_neg hlong, hbyte, hversion]
  by_cases hb : b = 0
  · exact (if_neg fun h => h.2 (congrArg some hb)).trans (if_neg (not_not.mpr hb)).symm
  · exact (if_pos ⟨hlong', fun h => hb (Option.some.inj h)⟩).trans (if_pos hb).symm

/-- `Opening` is what `examine` computes. -/
theorem examine_eq_iff : examine stream = e ↔ Opening stream e := by
  constructor
  · rintro rfl
    by_cases hpart : stream <+: hsIn
    · rw [examine_part hpart]
      exact .part hpart
    · by_cases hwhole : hsIn <+: stream
      · obtain ⟨more, rfl⟩ := hwhole
        match more with
        | [] => exact absurd (by simp) hpart
        | b :: more =>
            rw [examine_greeting]
            split
            · rename_i hb
              exact .unterminated hb
            · rename_i hb
              obtain rfl := not_not.mp hb
              match more with
              | [] => exact .terminated
              | v :: more => exact .versioned
      · rw [examine_wrong hpart hwhole]
        exact .wrong hpart hwhole
  · intro h
    cases h with
    | wrong h h' => exact examine_wrong h h'
    | part h => exact examine_part h
    | unterminated h => rw [examine_greeting, if_pos h]
    | terminated => exact examine_greeting
    | versioned => exact examine_greeting

theorem examine_version : examine stream = .version v ↔ hsIn ++ [0, v] <+: stream := by
  rw [examine_eq_iff]
  constructor
  · intro h
    cases h with
    | versioned => exact ⟨_, List.append_assoc _ _ _⟩
  · rintro ⟨more, rfl⟩
    rw [List.append_assoc]
    exact .versioned

end

end VangersSrv
