/-
Frames cut out of a stream.

A stream is the concatenation of frames and comes in pieces.  After `n` of its elements some
frames are complete and of the next one a part has come.  `cut` says which and how much, and
the lemmas say that nothing is lost and that the part is a proper one.
-/
import Mathlib.Data.List.Basic

namespace Frames

variable {α : Type*}

/-- Frames and the first elements of their concatenation. -/
structure Cut (α : Type*) where
  /-- The frames that have come. -/
  complete : List (List α)
  /-- The others. -/
  left : List (List α)
  /-- How much of the first of them has come. -/
  pending : Nat

def cut : List (List α) → Nat → Cut α
  | [], n => { complete := [], left := [], pending := n }
  | frame :: rest, n =>
    if frame.length ≤ n then
      let after := cut rest (n - frame.length)
      { after with complete := frame :: after.complete }
    else { complete := [], left := frame :: rest, pending := n }

/-- What has come of a frame is a proper part of it, and without a frame nothing has. -/
def Part : List (List α) → Nat → Prop
  | [], n => n = 0
  | frame :: _, n => n < frame.length

variable {frames : List (List α)} {frame : List α} {n : Nat}

theorem cut_cons_of_le {rest : List (List α)} (h : frame.length ≤ n) :
    cut (frame :: rest) n =
      { cut rest (n - frame.length) with
        complete := frame :: (cut rest (n - frame.length)).complete } := by
  simp [cut, h]

theorem cut_cons_of_lt {rest : List (List α)} (h : n < frame.length) :
    cut (frame :: rest) n = { complete := [], left := frame :: rest, pending := n } := by
  simp [cut, Nat.not_le.mpr h]

theorem complete_append_left (frames : List (List α)) (n : Nat) :
    (cut frames n).complete ++ (cut frames n).left = frames := by
  induction frames generalizing n with
  | nil => rfl
  | cons frame rest ih =>
      rcases Nat.lt_or_ge n frame.length with h | h
      · rw [cut_cons_of_lt h]
        rfl
      · rw [cut_cons_of_le h]
        simp [ih]

theorem length_complete_add_pending (frames : List (List α)) (n : Nat) :
    (cut frames n).complete.flatten.length + (cut frames n).pending = n := by
  induction frames generalizing n with
  | nil => simp [cut]
  | cons frame rest ih =>
      rcases Nat.lt_or_ge n frame.length with h | h
      · rw [cut_cons_of_lt h]
        simp
      · rw [cut_cons_of_le h]
        have hrest := ih (n - frame.length)
        simp only [List.flatten_cons, List.length_append]
        omega

theorem part_cut (h : n ≤ frames.flatten.length) :
    Part (cut frames n).left (cut frames n).pending := by
  induction frames generalizing n with
  | nil => simpa [cut, Part] using h
  | cons frame rest ih =>
      rcases Nat.lt_or_ge n frame.length with hlt | hle
      · rw [cut_cons_of_lt hlt]
        exact hlt
      · rw [cut_cons_of_le hle]
        refine ih ?_
        rw [List.flatten_cons, List.length_append] at h
        omega

/-- The elements after the first `n` are those after what has come of the frames left. -/
theorem drop_flatten (frames : List (List α)) (n : Nat) :
    frames.flatten.drop n = (cut frames n).left.flatten.drop (cut frames n).pending := by
  have hflatten : frames.flatten = (cut frames n).complete.flatten ++ (cut frames n).left.flatten := by
    rw [← List.flatten_append, complete_append_left]
  calc frames.flatten.drop n
      = ((cut frames n).complete.flatten ++ (cut frames n).left.flatten).drop
          ((cut frames n).complete.flatten.length + (cut frames n).pending) := by
        rw [← hflatten, length_complete_add_pending]
    _ = (cut frames n).left.flatten.drop (cut frames n).pending := List.drop_length_add_append _

end Frames
