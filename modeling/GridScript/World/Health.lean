/-!
Health, which damage takes and a reset gives back.

An agent whose health has run out is dead and takes no more damage until the reset.
-/

namespace GridScript

structure Health where
  max : UInt32
  current : UInt32
  isDead : Bool
deriving DecidableEq, Repr

namespace Health

def full (max : UInt32) : Health := ⟨max, max, max == 0⟩

/-- What is left of some health; damage beyond it does nothing more. -/
def less (current amount : UInt32) : UInt32 := if amount ≤ current then current - amount else 0

def damage (h : Health) (amount : UInt32) : Health :=
  if h.isDead then h
  else
    let left := less h.current amount
    { h with current := left, isDead := left == 0 }

/-- Damage has an effect on the living only. -/
def takesDamage (h : Health) : Bool := !h.isDead

def reset (h : Health) : Health := full h.max

theorem toNat_less (current amount : UInt32) :
    (less current amount).toNat = current.toNat - amount.toNat := by
  unfold less
  split
  · rename_i h
    exact UInt32.toNat_sub_of_le _ _ h
  · rename_i h
    have : ¬amount.toNat ≤ current.toNat := fun hle => h (UInt32.le_iff_toNat_le.2 hle)
    simp
    omega

@[simp] theorem max_damage (h : Health) (amount : UInt32) : (h.damage amount).max = h.max := by
  unfold damage
  split <;> rfl

end Health

end GridScript
