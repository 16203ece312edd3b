import GridScript.Grid.Coordinate
import GridScript.Text.Numeral

/-!
Points and rectangles of the plane, in pixels.

A point that is moved off one end of the coordinates comes back at the other. The edges of a
rectangle are the numbers they are, coordinates or not. A rectangle holds the points from its left
and upper edge up to its right and lower edge, those two excluded; one without width or height holds
none.
-/

namespace GridScript

structure Position where
  x : Int
  y : Int
deriving DecidableEq, Repr

structure Rect where
  x : Int
  y : Int
  width : Int
  height : Int
deriving DecidableEq, Repr

namespace Position

def origin : Position := ⟨0, 0⟩

/-- Both are coordinates. -/
structure InRange (p : Position) : Prop where
  x : IsCoordinate p.x
  y : IsCoordinate p.y

/-- The point some pixels away. -/
def offset (p : Position) (dx dy : Int) : Position := ⟨shift p.x dx, shift p.y dy⟩

def text (p : Position) : String := "(" ++ Text.intText p.x ++ ", " ++ Text.intText p.y ++ ")"

/-- As long as the sums are coordinates nothing wraps around. -/
theorem offset_eq {p : Position} {a b : Int} (h : InRange ⟨p.x + a, p.y + b⟩) :
    p.offset a b = ⟨p.x + a, p.y + b⟩ := by
  rw [offset, h.x.shift_eq, h.y.shift_eq]

@[simp] theorem offset_zero (p : Position) : p.offset 0 0 = p := by
  simp [offset]

/-- Away and away again is as far as both ways together, unless the second one leads back. -/
theorem offset_offset (p : Position) {a b c d : Int} (hx : a + c = 0 → a = 0)
    (hy : b + d = 0 → b = 0) : (p.offset a b).offset c d = p.offset (a + c) (b + d) := by
  rw [offset, offset, offset, shift_shift hx, shift_shift hy]

end Position

namespace Rect

def right (r : Rect) : Int := r.x + r.width

def bottom (r : Rect) : Int := r.y + r.height

def translated (r : Rect) (dx dy : Int) : Rect := ⟨r.x + dx, r.y + dy, r.width, r.height⟩

/-- Each of the two begins before the other ends, on both axes. -/
def intersects (a b : Rect) : Bool :=
  a.x < b.right && b.x < a.right && a.y < b.bottom && b.y < a.bottom

/-- The common part of two rectangles that intersect. -/
def intersection (a b : Rect) : Option Rect :=
  if a.intersects b then
    let x := max a.x b.x
    let y := max a.y b.y
    some ⟨x, y, min a.right b.right - x, min a.bottom b.bottom - y⟩
  else none

/-- The second rectangle lies between the edges of the first. -/
def contains (a b : Rect) : Bool :=
  a.x ≤ b.x && a.y ≤ b.y && b.right ≤ a.right && b.bottom ≤ a.bottom

/-- The points of a rectangle. -/
def Holds (r : Rect) (p : Position) : Prop :=
  r.x ≤ p.x ∧ p.x < r.right ∧ r.y ≤ p.y ∧ p.y < r.bottom

instance (r : Rect) (p : Position) : Decidable (r.Holds p) := by
  unfold Holds
  infer_instance

theorem intersects_comm (a b : Rect) : a.intersects b = b.intersects a := by
  simp only [intersects]
  grind

end Rect

end GridScript
