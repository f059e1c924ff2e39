/-
Little-endian byte strings.

A number below `256 ^ n` and its `n` bytes, least significant byte first, are two
spellings of the same thing.  `ofNat` writes the bytes and `toNat` reads them, and
the two round trips are everything a wire format needs of them.
-/
import Mathlib.Data.Nat.Basic
import Mathlib.Tactic.Ring

namespace LittleEndian

/-- The `n` low bytes of `x`, least significant first. -/
def ofNat : Nat → Nat → List UInt8
  | 0, _ => []
  | n + 1, x => UInt8.ofNat x :: ofNat n (x / 256)

/-- The number a byte string spells, least significant byte first. -/
def toNat : List UInt8 → Nat
  | [] => 0
  | b :: rest => b.toNat + 256 * toNat rest

@[simp] theorem length_ofNat (n x : Nat) : (ofNat n x).length = n := by
  induction n generalizing x with
  | zero => rfl
  | succ n ih => simp [ofNat, ih]

theorem toNat_lt (bytes : List UInt8) : toNat bytes < 256 ^ bytes.length := by
  induction bytes with
  | nil => simp [toNat]
  | cons b rest ih =>
      have hb : b.toNat < 256 := b.toNat_lt
      simp only [toNat, List.length_cons, pow_succ]
      omega

/-- Reading back what was written gives the low bytes. -/
theorem toNat_ofNat (n x : Nat) : toNat (ofNat n x) = x % 256 ^ n := by
  induction n generalizing x with
  | zero => simp [ofNat, toNat, Nat.mod_one]
  | succ n ih =>
      have hbyte : (UInt8.ofNat x).toNat = x % 256 := by simp
      rw [ofNat, toNat, ih, hbyte, pow_succ, Nat.mul_comm (256 ^ n) 256, Nat.mod_mul]

theorem toNat_ofNat_of_lt {n x : Nat} (h : x < 256 ^ n) : toNat (ofNat n x) = x := by
  rw [toNat_ofNat, Nat.mod_eq_of_lt h]

/-- Writing back what was read gives the bytes themselves. -/
theorem ofNat_toNat (bytes : List UInt8) : ofNat bytes.length (toNat bytes) = bytes := by
  induction bytes with
  | nil => rfl
  | cons b rest ih =>
      have hb : b.toNat < 256 := b.toNat_lt
      have hlow : (b.toNat + 256 * toNat rest) % 256 = b.toNat := by omega
      have hhigh : (b.toNat + 256 * toNat rest) / 256 = toNat rest := by omega
      simp only [toNat, List.length_cons, ofNat, hhigh, ih, List.cons.injEq, and_true]
      apply UInt8.toNat_inj.mp
      simp

end LittleEndian
