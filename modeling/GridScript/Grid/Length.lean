/-!
Lengths in pixels.

Sizes and speeds are 32-bit words. As a length, a word beyond the largest coordinate counts as that
coordinate, and where a length may not vanish zero counts as one.
-/

namespace GridScript

/-- The longest length. -/
def maxLength : Nat := 2147483647

/-- A size as a length. -/
def pixels (size : UInt32) : Nat := min size.toNat maxLength

/-- A size that does not vanish. -/
def atLeastOne (size : UInt32) : UInt32 := if size = 0 then 1 else size

theorem pixels_le (size : UInt32) : pixels size ≤ maxLength := Nat.min_le_right _ _

theorem pixels_of_le {size : UInt32} (h : size.toNat ≤ maxLength) : pixels size = size.toNat :=
  Nat.min_eq_left h

theorem atLeastOne_pos (size : UInt32) : 0 < (atLeastOne size).toNat := by
  unfold atLeastOne
  split
  · decide
  · rename_i h
    exact Nat.pos_of_ne_zero fun h0 => h (UInt32.toNat_inj.1 h0)

theorem pixels_atLeastOne_pos (size : UInt32) : 0 < pixels (atLeastOne size) := by
  have := atLeastOne_pos size
  unfold pixels maxLength
  omega

theorem atLeastOne_of_pos {size : UInt32} (h : 0 < size.toNat) : atLeastOne size = size :=
  if_neg fun h0 => by
    rw [h0] at h
    exact absurd h (by decide)

theorem atLeastOne_ne_zero (size : UInt32) : atLeastOne size ≠ 0 := fun h0 => by
  have := atLeastOne_pos size
  rw [h0] at this
  exact absurd this (by decide)

@[simp] theorem atLeastOne_atLeastOne (size : UInt32) :
    atLeastOne (atLeastOne size) = atLeastOne size :=
  if_neg (atLeastOne_ne_zero size)

end GridScript
