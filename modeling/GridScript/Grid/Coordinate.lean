import GridScript.Grid.Length

/-!
Coordinates, which are signed numbers of 32 bits.

Sums, differences and products of coordinates wrap around: of a number that does not fit, the low 32
bits stay, read as a signed number. Where nothing is lost, `wrap` changes nothing.
-/

namespace GridScript

/-- A coordinate, or a width or height, of 32 bits. -/
def IsCoordinate (i : Int) : Prop := -2147483648 ≤ i ∧ i ≤ 2147483647

instance (i : Int) : Decidable (IsCoordinate i) :=
  inferInstanceAs (Decidable (-2147483648 ≤ i ∧ i ≤ 2147483647))

/-- The coordinate that a number wraps around to. -/
@[irreducible] def wrap (i : Int) : Int := Int.bmod i UInt32.size

/-- The coordinate some pixels on. No pixels on, it is the same. -/
def shift (i d : Int) : Int := if d = 0 then i else wrap (i + d)

theorem wrap_eq_ite (i : Int) :
    wrap i = if i % 4294967296 < 2147483648 then i % 4294967296
      else i % 4294967296 - 4294967296 := by
  rw [wrap, Int.bmod_def]
  rfl

theorem isCoordinate_wrap (i : Int) : IsCoordinate (wrap i) := by
  rw [wrap_eq_ite, IsCoordinate]
  split <;> omega

/-- A number no farther from zero than a length is a coordinate. -/
theorem isCoordinate_of_natAbs_le {i : Int} (h : i.natAbs ≤ maxLength) : IsCoordinate i := by
  unfold maxLength at h
  unfold IsCoordinate
  omega

theorem IsCoordinate.le_maxLength {i : Int} (h : IsCoordinate i) : i ≤ maxLength := h.2

/-- A number that fits stays as it is. -/
theorem IsCoordinate.wrap_eq {i : Int} (h : IsCoordinate i) : wrap i = i := by
  unfold IsCoordinate at h
  rw [wrap_eq_ite]
  split <;> omega

@[simp] theorem wrap_zero : wrap 0 = 0 := by
  rw [wrap_eq_ite]
  rfl

/-- What wraps around does so by all the coordinates at once. -/
theorem wrap_eq_of_near {i : Int} (h : (wrap i - i).natAbs < 4294967296) : wrap i = i := by
  obtain ⟨j, hj⟩ : ∃ j, wrap i = i + 4294967296 * j := by
    rw [wrap_eq_ite]
    split
    · exact ⟨-(i / 4294967296), by omega⟩
    · exact ⟨-(i / 4294967296) - 1, by omega⟩
  omega

theorem wrap_le_of_nonneg {i : Int} (h : 0 ≤ i) : wrap i ≤ i := by
  rw [wrap_eq_ite]
  split <;> omega

theorem wrap_wrap_add (i d : Int) : wrap (wrap i + d) = wrap (i + d) := by
  unfold wrap
  exact Int.bmod_add_bmod

theorem wrap_wrap_sub (i d : Int) : wrap (wrap i - d) = wrap (i - d) := by
  unfold wrap
  exact Int.bmod_sub_bmod

@[simp] theorem shift_zero (i : Int) : shift i 0 = i := if_pos rfl

theorem IsCoordinate.shift_eq {i d : Int} (h : IsCoordinate (i + d)) : shift i d = i + d := by
  unfold shift
  split
  · omega
  · exact h.wrap_eq

/-- On and on is as far as both together, unless the second way leads back. -/
theorem shift_shift {i d e : Int} (h : d + e = 0 → d = 0) : shift (shift i d) e = shift i (d + e) := by
  by_cases hd : d = 0
  · rw [hd, shift_zero, Int.zero_add]
  · by_cases he : e = 0
    · rw [he, shift_zero, Int.add_zero]
    · rw [shift, if_neg he, shift, if_neg hd, wrap_wrap_add, shift, if_neg fun hde => hd (h hde),
        Int.add_assoc]

/-- The way to a coordinate some pixels on. -/
theorem wrap_shift_sub (i d : Int) : wrap (shift i d - i) = wrap d := by
  unfold shift
  split
  · rename_i hd
    rw [hd, Int.sub_self]
  · rw [wrap_wrap_sub, Int.add_comm, Int.add_sub_cancel]

/-- A product wraps around once, whether or not a factor has done so before. -/
theorem wrap_bmod_mul (i j : Int) : wrap (Int.bmod i UInt32.size * j) = wrap (i * j) := by
  unfold wrap
  exact Int.bmod_mul_bmod

end GridScript
