import GridScript.Grid.Rect
import Mathlib.Tactic.Common

/-!
Rectangles as sets of points.

The edges of two rectangles tell their common points, and whether one holds every point of the
other. A rectangle without points spoils one answer: between the edges of another one it counts as
intersecting, and no point is common.
-/

namespace GridScript.Rect

variable {a b r : Rect}

/-- The two have a common point. -/
def Meets (a b : Rect) : Prop := ∃ p, a.Holds p ∧ b.Holds p

/-- The first point of a rectangle with a width and a height. -/
lemma holds_corner (hwidth : 0 < r.width) (hheight : 0 < r.height) : r.Holds ⟨r.x, r.y⟩ := by
  simp only [Holds, right, bottom]
  omega

/-- The last point of a rectangle with a width and a height. -/
lemma holds_last (hwidth : 0 < r.width) (hheight : 0 < r.height) :
    r.Holds ⟨r.right - 1, r.bottom - 1⟩ := by
  simp only [Holds, right, bottom]
  omega

lemma size_pos_of_holds {p : Position} (h : r.Holds p) : 0 < r.width ∧ 0 < r.height := by
  simp only [Holds, right, bottom] at h
  omega

/-! ### Common points -/

lemma holds_intersection (h : a.intersection b = some r) (p : Position) :
    r.Holds p ↔ a.Holds p ∧ b.Holds p := by
  unfold intersection at h
  split at h
  · obtain rfl := Option.some.inj h
    simp only [Holds, right, bottom]
    omega
  · cases h

lemma isSome_intersection : (a.intersection b).isSome = a.intersects b := by
  unfold intersection
  split
  · rename_i h
    exact h.symm
  · rename_i h
    exact (Bool.eq_false_iff.2 h).symm

lemma intersects_of_meets (h : a.Meets b) : a.intersects b = true := by
  obtain ⟨p, ha, hb⟩ := h
  simp only [Holds] at ha hb
  simp only [intersects, Bool.and_eq_true, decide_eq_true_eq]
  omega

/-- The later of the two first points is common. -/
lemma meets_of_intersects (h : a.intersects b = true) (ha : 0 < a.width ∧ 0 < a.height)
    (hb : 0 < b.width ∧ 0 < b.height) : a.Meets b := by
  refine ⟨⟨max a.x b.x, max a.y b.y⟩, ?_⟩
  simp only [intersects, Bool.and_eq_true, decide_eq_true_eq] at h
  simp only [Holds, right, bottom] at h ⊢
  omega

lemma meets_iff :
    a.Meets b ↔
      a.intersects b = true ∧ (0 < a.width ∧ 0 < a.height) ∧ 0 < b.width ∧ 0 < b.height := by
  constructor
  · rintro ⟨p, ha, hb⟩
    exact ⟨intersects_of_meets ⟨p, ha, hb⟩, size_pos_of_holds ha, size_pos_of_holds hb⟩
  · rintro ⟨h, ha, hb⟩
    exact meets_of_intersects h ha hb

/-! ### Points of the other -/

lemma holds_of_contains (h : a.contains b = true) {p : Position} (hp : b.Holds p) : a.Holds p := by
  simp only [contains, Bool.and_eq_true, decide_eq_true_eq] at h
  simp only [Holds] at hp ⊢
  omega

/-- The first and the last point decide. -/
lemma contains_of_holds (hb : ∃ p, b.Holds p) (h : ∀ p, b.Holds p → a.Holds p) :
    a.contains b = true := by
  obtain ⟨p, hp⟩ := hb
  obtain ⟨hwidth, hheight⟩ := size_pos_of_holds hp
  have hfirst := h _ (holds_corner hwidth hheight)
  have hlast := h _ (holds_last hwidth hheight)
  simp only [Holds] at hfirst hlast
  simp only [contains, Bool.and_eq_true, decide_eq_true_eq]
  omega

/-- **Rectangles as sets of points**: two of them have a common point exactly if they intersect and
neither is without a width or a height, and which is the first does not matter. There is an
intersection exactly if they intersect, and its points are the common ones. One that has a point
lies between the edges of another exactly if its points are points of the other. -/
theorem points_of_edges (a b : Rect) :
    (a.Meets b ↔
        a.intersects b = true ∧ (0 < a.width ∧ 0 < a.height) ∧ 0 < b.width ∧ 0 < b.height) ∧
      a.intersects b = b.intersects a ∧
      (a.intersection b).isSome = a.intersects b ∧
      (∀ r, a.intersection b = some r → ∀ p, r.Holds p ↔ a.Holds p ∧ b.Holds p) ∧
      ((∃ p, b.Holds p) → (a.contains b = true ↔ ∀ p, b.Holds p → a.Holds p)) := by
  refine ⟨meets_iff, intersects_comm a b, isSome_intersection, fun r => holds_intersection,
    fun hb => ⟨fun h p => holds_of_contains h, contains_of_holds hb⟩⟩

/-- A rectangle without a width intersects the one around it, and no point is common. -/
theorem thin_intersects :
    (⟨0, 0, 10, 10⟩ : Rect).intersects ⟨5, 0, 0, 10⟩ = true ∧
      (⟨0, 0, 10, 10⟩ : Rect).intersection ⟨5, 0, 0, 10⟩ = some ⟨5, 0, 0, 10⟩ ∧
        ¬(⟨0, 0, 10, 10⟩ : Rect).Meets ⟨5, 0, 0, 10⟩ := by
  refine ⟨by decide, by decide, ?_⟩
  rintro ⟨p, -, hp⟩
  exact absurd (size_pos_of_holds hp).1 (by decide)

/-- The points of one corner are common to two squares, and neither lies within the other. -/
theorem points_of_edges_corner :
    (⟨0, 0, 10, 10⟩ : Rect).intersection ⟨4, 6, 10, 10⟩ = some ⟨4, 6, 6, 4⟩ ∧
      (∀ p, (⟨4, 6, 6, 4⟩ : Rect).Holds p ↔
        (⟨0, 0, 10, 10⟩ : Rect).Holds p ∧ (⟨4, 6, 10, 10⟩ : Rect).Holds p) ∧
      (∃ p, (⟨4, 6, 10, 10⟩ : Rect).Holds p) ∧
        ¬∀ p, (⟨4, 6, 10, 10⟩ : Rect).Holds p → (⟨0, 0, 10, 10⟩ : Rect).Holds p := by
  obtain ⟨-, -, -, hpoints, hwithin⟩ := points_of_edges ⟨0, 0, 10, 10⟩ ⟨4, 6, 10, 10⟩
  have hcommon : (⟨0, 0, 10, 10⟩ : Rect).intersection ⟨4, 6, 10, 10⟩ = some ⟨4, 6, 6, 4⟩ := by decide
  have hpoint : ∃ p, (⟨4, 6, 10, 10⟩ : Rect).Holds p := ⟨⟨4, 6⟩, by decide⟩
  exact ⟨hcommon, hpoints _ hcommon, hpoint, fun h => absurd ((hwithin hpoint).2 h) (by decide)⟩

end GridScript.Rect
