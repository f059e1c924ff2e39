/-
Machine integers, slices and C strings: `utils/util.rs` and the parts of the
standard library the server leans on.

An `i32` and a `u32` are both `BitVec 32` (Rust's `as` between them keeps the
bits), likewise the 16-bit types; a byte is a `UInt8`.  Arithmetic wraps, which is
what the release build that the Dockerfile ships does.

A function that can panic returns an `Option` and `none` is the panic; a Rust
`Option` or `Result` that is an ordinary value stays an `Option` or an `Except`
inside it.
-/
import VangersSrv.Lib.LittleEndian
import Mathlib.Data.List.Forall2

namespace VangersSrv

/-- A loop that may panic gets through exactly when every round does. -/
theorem mapM_eq_some {α β : Type} {f : α → Option β} {l : List α} {l' : List β} :
    l.mapM f = some l' ↔ List.Forall₂ (fun a b => f a = some b) l l' := by
  induction l generalizing l' with
  | nil => cases l' <;> simp
  | cons a rest ih =>
      simp only [List.mapM_cons, Option.pure_def, Option.bind_eq_bind, Option.bind_eq_some_iff,
        Option.some.injEq, List.forall₂_cons_left_iff]
      constructor
      · rintro ⟨b, hb, bs, hbs, rfl⟩
        exact ⟨b, bs, hb, ih.mp hbs, rfl⟩
      · rintro ⟨b, bs, hb, hbs, rfl⟩
        exact ⟨b, hb, bs, ih.mpr hbs, rfl⟩

/-- Its results are those of its rounds. -/
theorem mem_mapM {α β : Type} {f : α → Option β} {l : List α} {l' : List β}
    (h : l.mapM f = some l') {b : β} : b ∈ l' ↔ ∃ a ∈ l, f a = some b := by
  have hall := mapM_eq_some.mp h
  clear h
  induction hall with
  | nil => simp
  | @cons a b' _ _ hab _ ih =>
      simp only [List.mem_cons, ih, exists_eq_or_imp, hab, Option.some.injEq]
      exact or_congr_left eq_comm

theorem exists_of_mapM {α β : Type} {f : α → Option β} {l : List α} {l' : List β}
    (h : l.mapM f = some l') {a : α} (ha : a ∈ l) : ∃ b ∈ l', f a = some b := by
  have hall := mapM_eq_some.mp h
  clear h
  induction hall with
  | nil => simp at ha
  | @cons a' b _ _ hab _ ih =>
      rcases List.mem_cons.mp ha with rfl | ha
      · exact ⟨b, List.mem_cons_self, hab⟩
      · obtain ⟨b', hb', hab'⟩ := ih ha
        exact ⟨b', List.mem_cons_of_mem _ hb', hab'⟩

theorem mapM_isSome {α β : Type} {f : α → Option β} {l : List α} (h : ∀ a ∈ l, ∃ b, f a = some b) :
    ∃ l', l.mapM f = some l' := by
  induction l with
  | nil => exact ⟨[], rfl⟩
  | cons a rest ih =>
      obtain ⟨b, hb⟩ := h a (by simp)
      obtain ⟨l', hl'⟩ := ih fun x hx => h x (by simp [hx])
      exact ⟨b :: l', by simp [hb, hl']⟩

/-- A loop panics exactly when one of its rounds does. -/
theorem mapM_isSome_iff {α β : Type} {f : α → Option β} {l : List α} :
    (l.mapM f).isSome ↔ ∀ a ∈ l, (f a).isSome := by
  constructor
  · intro h a ha
    obtain ⟨l', hl'⟩ := Option.isSome_iff_exists.mp h
    obtain ⟨b, -, hb⟩ := exists_of_mapM hl' ha
    rw [hb]
    rfl
  · intro h
    obtain ⟨l', hl'⟩ := mapM_isSome fun a ha => Option.isSome_iff_exists.mp (h a ha)
    rw [hl']
    rfl

/-- A step that is followed by steps that never panic decides alone. -/
theorem bind_isSome_iff {α β : Type} {o : Option α} {f : α → Option β} (h : ∀ a, (f a).isSome) :
    (o.bind f).isSome ↔ o.isSome := by
  cases o with
  | none => rfl
  | some a => simp [h a]

theorem ok_of_toOption {ε α : Type} {x : Except ε α} {a : α} (h : x.toOption = some a) : x = .ok a := by
  cases x with
  | error e => cases h
  | ok b => exact congrArg Except.ok (Option.some.inj h)

theorem error_of_toOption {ε α : Type} {x : Except ε α} (h : x.toOption = none) :
    ∃ e, x = .error e := by
  cases x with
  | error e => exact ⟨e, rfl⟩
  | ok b => cases h

abbrev Bytes := List UInt8
abbrev I16 := BitVec 16
abbrev U16 := BitVec 16
abbrev I32 := BitVec 32
abbrev U32 := BitVec 32

/-- `i16::MAX` -/
def i16Max : Nat := 32767

/-! ### Slices -/

/-- `&v[a..b]`, which panics unless `a ≤ b ≤ v.len()`. -/
def slice (v : Bytes) (a b : Nat) : Option Bytes :=
  if a ≤ b ∧ b ≤ v.length then some ((v.drop a).take (b - a)) else none

/-- `&v[a..]` -/
def sliceFrom (v : Bytes) (a : Nat) : Option Bytes :=
  if a ≤ v.length then some (v.drop a) else none

theorem slice_eq_some {v s : Bytes} {a b : Nat} :
    slice v a b = some s ↔ (a ≤ b ∧ b ≤ v.length) ∧ (v.drop a).take (b - a) = s := by
  unfold slice
  split <;> simp_all

/-- Two slices that meet are one. -/
theorem slice_append {v s t : Bytes} {a b c : Nat} (h : slice v a b = some s)
    (h' : slice v b c = some t) : slice v a c = some (s ++ t) := by
  obtain ⟨⟨hab, -⟩, rfl⟩ := slice_eq_some.mp h
  obtain ⟨⟨hbc, hc⟩, rfl⟩ := slice_eq_some.mp h'
  refine slice_eq_some.mpr ⟨⟨hab.trans hbc, hc⟩, ?_⟩
  have hsum : c - a = (b - a) + (c - b) := by omega
  have hdrop : (v.drop a).drop (b - a) = v.drop b := by
    rw [List.drop_drop]
    congr 1
    omega
  rw [hsum, List.take_add, hdrop]

/-- A slice behind a header. -/
theorem slice_of_header {header v s : Bytes} {a b : Nat} (h : slice v a b = some s) :
    slice (header ++ v) (header.length + a) (header.length + b) = some s := by
  obtain ⟨⟨hab, hb⟩, rfl⟩ := slice_eq_some.mp h
  refine slice_eq_some.mpr ⟨⟨by omega, ?_⟩, ?_⟩
  · rw [List.length_append]
    omega
  · rw [List.drop_length_add_append]
    congr 1
    omega

theorem sliceFrom_eq_some {v s : Bytes} {a : Nat} :
    sliceFrom v a = some s ↔ a ≤ v.length ∧ v.drop a = s := by
  unfold sliceFrom
  split <;> simp_all

/-! ### Little-endian integers -/

/-- `x.to_le_bytes()` of a 16-bit integer. -/
def toLeBytes16 (x : BitVec 16) : Bytes := LittleEndian.ofNat 2 x.toNat

/-- `x.to_le_bytes()` of a 32-bit integer. -/
def toLeBytes32 (x : BitVec 32) : Bytes := LittleEndian.ofNat 4 x.toNat

/-- Reads a 16-bit integer; `try_into().unwrap()` panics on any other width. -/
def sliceLeToI16 (s : Bytes) : Option I16 :=
  if s.length = 2 then some (BitVec.ofNat 16 (LittleEndian.toNat s)) else none

/-- Reads a 32-bit integer; `try_into().unwrap()` panics on any other width. -/
def sliceLeToI32 (s : Bytes) : Option I32 :=
  if s.length = 4 then some (BitVec.ofNat 32 (LittleEndian.toNat s)) else none

def sliceLeToU32 (s : Bytes) : Option U32 := sliceLeToI32 s

@[simp] theorem length_toLeBytes16 (x : BitVec 16) : (toLeBytes16 x).length = 2 := by
  simp [toLeBytes16]

@[simp] theorem length_toLeBytes32 (x : BitVec 32) : (toLeBytes32 x).length = 4 := by
  simp [toLeBytes32]

@[simp] theorem sliceLeToI16_toLeBytes16 (x : BitVec 16) :
    sliceLeToI16 (toLeBytes16 x) = some x := by
  have hx : x.toNat < 256 ^ 2 := x.isLt
  simp [sliceLeToI16, toLeBytes16, LittleEndian.toNat_ofNat_of_lt hx]

@[simp] theorem sliceLeToI32_toLeBytes32 (x : BitVec 32) :
    sliceLeToI32 (toLeBytes32 x) = some x := by
  have hx : x.toNat < 256 ^ 4 := x.isLt
  simp [sliceLeToI32, toLeBytes32, LittleEndian.toNat_ofNat_of_lt hx]

/-- Writing back what was read gives the slice itself. -/
theorem toLeBytes32_of_sliceLeToI32 {s : Bytes} {x : I32} (h : sliceLeToI32 s = some x) :
    toLeBytes32 x = s := by
  unfold sliceLeToI32 at h
  split at h
  · rename_i hlen
    have hlt := LittleEndian.toNat_lt s
    rw [hlen] at hlt
    simp only [Option.some.injEq] at h
    subst h
    have hval : (BitVec.ofNat 32 (LittleEndian.toNat s)).toNat = LittleEndian.toNat s := by
      rw [BitVec.toNat_ofNat]
      exact Nat.mod_eq_of_lt hlt
    have hback := LittleEndian.ofNat_toNat s
    rw [hlen] at hback
    rw [toLeBytes32, hval, hback]
  · simp at h

theorem sliceLeToI32_isSome {s : Bytes} (h : s.length = 4) : ∃ x, sliceLeToI32 s = some x := by
  simp [sliceLeToI32, h]

theorem sliceLeToI16_isSome {s : Bytes} (h : s.length = 2) : ∃ x, sliceLeToI16 s = some x := by
  simp [sliceLeToI16, h]

theorem toLeBytes32_injective {x y : BitVec 32} (h : toLeBytes32 x = toLeBytes32 y) : x = y := by
  have hx := sliceLeToI32_toLeBytes32 x
  rw [h, sliceLeToI32_toLeBytes32] at hx
  exact (Option.some.inj hx).symm

/-! ### C strings -/

/-- The bytes before the first zero byte, when there is one: `CStr::from_bytes_until_nul`. -/
def cstrUntilNul (bytes : Bytes) : Option Bytes :=
  if 0 ∈ bytes then some (bytes.takeWhile (· ≠ 0)) else none

/-- `CStr::to_bytes_with_nul` -/
def withNul (name : Bytes) : Bytes := name ++ [0]

theorem cstrUntilNul_eq_some {bytes name : Bytes} (h : cstrUntilNul bytes = some name) :
    0 ∉ name ∧ ∃ rest, bytes = withNul name ++ rest := by
  unfold cstrUntilNul at h
  split at h
  · rename_i hmem
    cases h
    refine ⟨fun hzero => ?_, ?_⟩
    · have hall := List.all_eq_true.mp (List.all_takeWhile (l := bytes)) 0 hzero
      simp at hall
    induction bytes with
    | nil => cases hmem
    | cons b bytes ih =>
        by_cases hb : b = 0
        · exact ⟨bytes, by simp [hb, withNul]⟩
        · obtain ⟨rest, hrest⟩ := ih (by simpa [Ne.symm hb] using hmem)
          refine ⟨rest, ?_⟩
          rw [List.takeWhile_cons_of_pos (by simpa using hb), withNul, List.cons_append,
            List.cons_append, ← withNul, ← hrest]
  · cases h

/-- A C string ends at the first zero byte. -/
theorem cstrUntilNul_withNul {name rest : Bytes} (h : 0 ∉ name) :
    cstrUntilNul (withNul name ++ rest) = some name := by
  have hmem : 0 ∈ withNul name ++ rest := by simp [withNul]
  have hname : ∀ b ∈ name, decide (b ≠ 0) = true := by
    intro b hb
    simpa using fun hzero : b = 0 => h (hzero ▸ hb)
  unfold cstrUntilNul
  rw [if_pos hmem, withNul, List.append_assoc, List.takeWhile_append_of_pos hname]
  simp

/-- Bytes with a zero byte are a C string and what follows it. -/
theorem cstrUntilNul_append {bytes name rest : Bytes} (h : cstrUntilNul bytes = some name)
    (hrest : sliceFrom bytes (withNul name).length = some rest) : bytes = withNul name ++ rest := by
  obtain ⟨-, tail, rfl⟩ := cstrUntilNul_eq_some h
  obtain ⟨-, rfl⟩ := sliceFrom_eq_some.mp hrest
  rw [List.drop_left]

/-- The first C string with its terminator, or `None` if the first byte is zero. -/
def getFirstCstr (bytes : Bytes) : Option Bytes :=
  if bytes = [] ∨ bytes.head? = some 0 then none else (cstrUntilNul bytes).map withNul

/-! ### Decimal text -/

/-- The ASCII bytes of a string. -/
def ascii (s : String) : Bytes := s.toList.map fun c => UInt8.ofNat c.toNat

/-- `{}` of an unsigned integer. -/
def showNat (n : Nat) : Bytes := ascii (toString n)

/-- `{:02}` of an unsigned integer. -/
def showNat02 (n : Nat) : Bytes := if n < 10 then ascii "0" ++ showNat n else showNat n

/-! ### Uptime -/

/-- A point of the monotonic clock, in nanoseconds. -/
abbrev Instant := Nat

def nanosPerSec : Nat := 1000000000

/-- Whole seconds since `start`, as `u32`: `Uptime::as_secs_u32`. -/
def Instant.asSecsU32 (start now : Instant) : U32 :=
  BitVec.ofNat 32 ((now - start) / nanosPerSec)

/-- `{}` of an `Uptime`: hours modulo a day, minutes and seconds. -/
def Instant.display (start now : Instant) : Bytes :=
  let time := (now - start) / nanosPerSec
  let ts := time % 60
  let tm := time / 60 % 60
  let th := time / 60 / 60 % 24
  showNat th ++ ascii ":" ++ showNat02 tm ++ ascii ":" ++ showNat02 ts

end VangersSrv
