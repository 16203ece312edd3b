import GridScript.Proofs.Motion.Tick

/-!
Moves along a line.

A step leads some pixels away in one direction. As long as the target of a move lies straight ahead,
a tick that does not arrive takes the agent straight on, by its pace.
-/

namespace GridScript

/-- The point so many pixels away in some direction. -/
def Position.along (p : Position) (d : Direction) (n : Int) : Position :=
  p.offset (d.delta.1 * n) (d.delta.2 * n)

@[simp] lemma Position.along_zero (p : Position) (d : Direction) : p.along d 0 = p := by
  simp [along]

/-- On and on in one direction, and not back, is as far as both ways together. -/
lemma Position.along_along (p : Position) (d : Direction) {m n : Int} (hm : 0 ≤ m) (hn : 0 ≤ n) :
    (p.along d m).along d n = p.along d (m + n) := by
  have hback : ∀ u : Int, u * m + u * n = 0 → u * m = 0 := by
    intro u hu
    rw [← Int.mul_add, Int.mul_eq_zero] at hu
    rcases hu with rfl | hzero
    · exact Int.zero_mul m
    · rw [show m = 0 by omega, Int.mul_zero]
  rw [along, along, along, offset_offset _ (hback _) (hback _), Int.mul_add, Int.mul_add]

/-- The same in plain numbers, which may be too large for coordinates. -/
def Position.beyond (p : Position) (d : Direction) (n : Int) : Position :=
  ⟨p.x + d.delta.1 * n, p.y + d.delta.2 * n⟩

/-- As long as they are coordinates, nothing wraps around. -/
lemma Position.along_eq {p : Position} {d : Direction} {n : Int} (h : (p.beyond d n).InRange) :
    p.along d n = p.beyond d n := p.offset_eq h

/-- What lies between two points with coordinates has coordinates. -/
lemma Position.inRange_beyond {p : Position} {d : Direction} {k n : Int} (hp : p.InRange)
    (hn : (p.beyond d n).InRange) (h0 : 0 ≤ k) (hk : k ≤ n) : (p.beyond d k).InRange := by
  obtain ⟨⟨hx, hx'⟩, hy, hy'⟩ := hp
  obtain ⟨⟨hnx, hnx'⟩, hny, hny'⟩ := hn
  cases d <;> simp only [beyond, Direction.delta] at * <;> constructor <;> constructor <;>
    dsimp only <;> omega

/-- A way along an axis that is no longer than a length does not wrap around. -/
lemma wrap_delta_mul {u n : Int} (hu : u = 0 ∨ u = 1 ∨ u = -1) (h0 : 0 ≤ n) (hn : n ≤ maxLength) :
    wrap (u * n) = u * n := by
  refine (isCoordinate_of_natAbs_le ?_).wrap_eq
  rcases hu with rfl | rfl | rfl <;> omega

namespace Scheduler

/-- A tick covers its pace of a longer way in some direction, and nothing across it. -/
lemma advance_mul {pace : Nat} {u n : Int} (hu : u = 0 ∨ u = 1 ∨ u = -1) (hn : (pace : Int) < n) :
    advance pace (u * n) = u * pace := by
  have hsign : n.sign = 1 := Int.sign_eq_one_of_pos (by omega)
  have hmin : min n.natAbs pace = pace := by omega
  rcases hu with rfl | rfl | rfl <;> simp [advance, hsign, hmin]

variable {σ : Type} [Scene σ] {s : Scheduler} {m : Motion} {w : σ} {d : Direction} {n : Int}

/-- The way to a target that lies on a line. -/
lemma way_of_along (h : m.target = (Scene.position w).along d n) (h0 : 0 ≤ n) (hn : n ≤ maxLength) :
    wayX m w = d.delta.1 * n ∧ wayY m w = d.delta.2 * n := by
  rw [wayX, wayY, h, Position.along, Position.offset, wrap_shift_sub, wrap_shift_sub,
    wrap_delta_mul d.delta_unit.1 h0 hn, wrap_delta_mul d.delta_unit.2 h0 hn]
  exact ⟨rfl, rfl⟩

lemma distance_of_along (h : m.target = (Scene.position w).along d n) (h0 : 0 ≤ n)
    (hn : n ≤ maxLength) : distance m w = n.natAbs := by
  obtain ⟨hx, hy⟩ := way_of_along h h0 hn
  have hsum : (d.delta.1 * n).natAbs + (d.delta.2 * n).natAbs = n.natAbs := by
    rw [Int.natAbs_mul, Int.natAbs_mul, ← Nat.add_mul, Direction.natAbs_delta, Nat.one_mul]
  have hwrap : wrap (n.natAbs : Nat) = n.natAbs :=
    (isCoordinate_of_natAbs_le (by omega)).wrap_eq
  rw [distance, hx, hy, ← Int.natCast_add, hsum, hwrap, Int.toNat_natCast]

/-- A tick that does not arrive takes the agent straight on. -/
lemma ahead_of_along (h : m.target = (Scene.position w).along d n) (hn : n ≤ maxLength)
    (hpace : (s.pace : Int) < n) : s.ahead m w = (Scene.position w).along d s.pace := by
  obtain ⟨hx, hy⟩ := way_of_along h (by omega) hn
  rw [ahead, hx, hy, advance_mul d.delta_unit.1 hpace, advance_mul d.delta_unit.2 hpace,
    Position.along]

/-- A step leads one stride away. -/
lemma goal_eq_along (s : Scheduler) (d : Direction) (w : σ) :
    s.goal d w = (Scene.position w).along d s.stride := rfl

end Scheduler

end GridScript
