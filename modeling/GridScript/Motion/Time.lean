/-!
Readings of a clock, in milliseconds.

A reading is a 64-bit number. Sums stop at the last reading and differences at zero.
-/

namespace GridScript

/-- A reading of a clock, or a time between two readings. -/
abbrev Millis := UInt64

namespace Millis

def last : Millis := 18446744073709551615

/-- The reading some time after another. -/
def after (t d : Millis) : Millis := if t.toNat + d.toNat < UInt64.size then t + d else last

/-- The time since an earlier reading, zero if that one is not earlier. -/
def since (earlier t : Millis) : Millis := if earlier ≤ t then t - earlier else 0

theorem toNat_after (t d : Millis) :
    (t.after d).toNat = min (t.toNat + d.toNat) last.toNat := by
  have hl : last.toNat = 18446744073709551615 := rfl
  have hs : UInt64.size = 18446744073709551616 := rfl
  unfold after
  split
  · rename_i h
    rw [UInt64.toNat_add, Nat.mod_eq_of_lt h]
    omega
  · omega

theorem after_zero (t : Millis) : t.after 0 = t := by
  have hlt : t.toNat < UInt64.size := t.toNat_lt
  simp [after, hlt]

theorem toNat_since (earlier t : Millis) : (since earlier t).toNat = t.toNat - earlier.toNat := by
  unfold since
  split
  · rename_i h
    exact UInt64.toNat_sub_of_le _ _ h
  · rename_i h
    have : ¬earlier.toNat ≤ t.toNat := fun hle => h (UInt64.le_iff_toNat_le.2 hle)
    simp
    omega

end Millis

end GridScript
