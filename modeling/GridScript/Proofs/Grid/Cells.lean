import GridScript.Grid.Direction
import GridScript.Grid.TileMap
import Mathlib.Tactic.Linarith

/-!
Cells of a map, and what a rectangle smaller than a tile touches on its way from one to the next.

A rectangle that lies within its tile, moved with the corner of that tile from a cell to the next
cell, touches these two cells and no other. So it is blocked nowhere on the way if both are free,
and on a cell it is blocked if and only if that cell is not free.
-/

namespace GridScript

/-- A cell, in the grid or not. -/
@[ext] structure Cell where
  col : Int
  row : Int
deriving DecidableEq, Repr

/-- The neighbour in some direction. -/
def Cell.next (c : Cell) (d : Direction) : Cell := ⟨c.col + d.delta.1, c.row + d.delta.2⟩

/-- The rectangle lies within a tile with its corner at the origin, and is not empty. -/
structure Rect.InTile (r : Rect) (edge : Int) : Prop where
  left : 0 ≤ r.x
  top : 0 ≤ r.y
  width : 0 < r.width
  height : 0 < r.height
  right : r.x + r.width ≤ edge
  bottom : r.y + r.height ≤ edge

namespace TileMap

/-- The cell lies in the grid and is not solid. -/
def Free (m : TileMap) (c : Cell) : Prop :=
  (0 ≤ c.col ∧ c.col < m.columns) ∧ (0 ≤ c.row ∧ c.row < m.rows) ∧
    m.isSolid c.col.toNat c.row.toNat = false

instance (m : TileMap) (c : Cell) : Decidable (m.Free c) :=
  inferInstanceAs (Decidable (_ ∧ _ ∧ _))

/-- The upper left corner of a cell, in the grid or not. -/
def corner (m : TileMap) (c : Cell) : Position := ⟨c.col * m.edge, c.row * m.edge⟩

/-- A tile is two pixels wide at least, and the map with one more row and column of tiles has
coordinates for all its pixels. -/
structure Fits (m : TileMap) : Prop where
  two_le : 2 ≤ m.tileSize.toNat
  columns : (m.columns + 1) * m.tileSize.toNat ≤ maxLength
  rows : (m.rows + 1) * m.tileSize.toNat ≤ maxLength

section Coordinates

variable {m : TileMap}

lemma edge_le_maxLength (m : TileMap) : m.edge ≤ maxLength := Int.ofNat_le.2 (pixels_le m.tileSize)

lemma edge_nonneg (m : TileMap) : 0 ≤ m.edge := Int.natCast_nonneg _

/-- An extent that is a length does not wrap around. -/
lemma wrap_extent {n : Nat} (h : n * m.edge ≤ maxLength) :
    wrap (cellCoordinate n * m.edge) = n * m.edge := by
  have h0 : 0 ≤ n * m.edge := Int.mul_nonneg (Int.natCast_nonneg n) m.edge_nonneg
  rw [wrap_cellCoordinate_mul]
  exact (isCoordinate_of_natAbs_le (by omega)).wrap_eq

/-- An origin within the lengths is the corner of its cell. -/
lemma cellOrigin_eq_corner {col row : Nat} (hcol : col * m.edge ≤ maxLength)
    (hrow : row * m.edge ≤ maxLength) : m.cellOrigin col row = m.corner ⟨col, row⟩ := by
  rw [cellOrigin, wrap_extent hcol, wrap_extent hrow]
  rfl

/-- Fewer tiles are no wider. -/
lemma extent_le {n k : Nat} (hn : n ≤ k) : (n : Int) * m.edge ≤ k * m.edge :=
  Int.mul_le_mul_of_nonneg_right (by omega) m.edge_nonneg

lemma Fits.edge_eq (h : m.Fits) : m.edge = m.tileSize.toNat := by
  have h1 : 1 * m.tileSize.toNat ≤ (m.columns + 1) * m.tileSize.toNat :=
    Nat.mul_le_mul_right _ (by omega)
  have h2 := h.columns
  rw [edge, pixels_of_le (by omega)]

lemma Fits.two_le_edge (h : m.Fits) : 2 ≤ m.edge := by
  have := h.two_le
  rw [h.edge_eq]
  omega

lemma Fits.edge_pos (h : m.Fits) : 0 < m.edge := by
  have := h.two_le_edge
  omega

lemma Fits.columns_le (h : m.Fits) : (m.columns + 1) * m.edge ≤ maxLength := by
  rw [h.edge_eq]
  exact_mod_cast h.columns

lemma Fits.rows_le (h : m.Fits) : (m.rows + 1) * m.edge ≤ maxLength := by
  rw [h.edge_eq]
  exact_mod_cast h.rows

lemma Fits.bounds_eq (h : m.Fits) : m.bounds = ⟨0, 0, m.columns * m.edge, m.rows * m.edge⟩ := by
  rw [bounds, wrap_extent ((extent_le (Nat.le_succ _)).trans h.columns_le),
    wrap_extent ((extent_le (Nat.le_succ _)).trans h.rows_le)]

/-- The corner of a cell of the grid is its origin. -/
lemma Fits.cellOrigin_eq (h : m.Fits) {col row : Nat} (hcol : col < m.columns)
    (hrow : row < m.rows) : m.cellOrigin col row = m.corner ⟨col, row⟩ :=
  cellOrigin_eq_corner ((extent_le (by omega)).trans h.columns_le)
    ((extent_le (by omega)).trans h.rows_le)

/-- On one axis: no farther than a tile from a tile of the map, all points are coordinates. -/
lemma isCoordinate_of_cell {n i t k u : Int} (hn : (n + 1) * t ≤ maxLength) (h0 : 0 ≤ i) (hi : i < n)
    (hk0 : 0 ≤ k) (hk : k ≤ t) (hu : u = 0 ∨ u = 1 ∨ u = -1) : IsCoordinate (i * t + u * k) := by
  have hleft : 0 ≤ i * t := Int.mul_nonneg h0 (by omega)
  have hright : i * t ≤ n * t := Int.mul_le_mul_of_nonneg_right hi.le (by omega)
  rw [Int.add_mul] at hn
  refine isCoordinate_of_natAbs_le ?_
  rcases hu with rfl | rfl | rfl <;> omega

/-- From the corner of a free cell, a point no farther than a tile is where it is. -/
lemma Fits.offset_corner (h : m.Fits) {c : Cell} (hc : m.Free c) (d : Direction) {k : Int}
    (h0 : 0 ≤ k) (hk : k ≤ m.edge) :
    (m.corner c).offset (d.delta.1 * k) (d.delta.2 * k) =
      ⟨c.col * m.edge + d.delta.1 * k, c.row * m.edge + d.delta.2 * k⟩ :=
  Position.offset_eq
    ⟨isCoordinate_of_cell h.columns_le hc.1.1 hc.1.2 h0 hk d.delta_unit.1,
      isCoordinate_of_cell h.rows_le hc.2.1.1 hc.2.1.2 h0 hk d.delta_unit.2⟩

end Coordinates

/-! ### Touched cells -/

section Touched

variable {m : TileMap} {r : Rect}

/-- On one axis: a stretch within a tile, moved with the corner of the tile, lies on tiles that the
corner lies between. -/
lemma touched_between {t lo hi x o w i : Int} (ht : 0 < t) (ho : 0 ≤ o) (how : o + w ≤ t)
    (hlo : lo * t ≤ x) (hhi : x ≤ hi * t) (h1 : (o + x) / t ≤ i) (h2 : i ≤ (o + x + w - 1) / t) :
    lo ≤ i ∧ i ≤ hi := by
  have hfirst : lo ≤ (o + x) / t := by
    rw [Int.le_ediv_iff_mul_le ht]
    omega
  have hlast : (o + x + w - 1) / t < hi + 1 := by
    rw [Int.ediv_lt_iff_lt_mul ht, Int.add_mul]
    omega
  omega

/-- On one axis: on the corner of a tile the stretch lies on that tile. -/
lemma touched_corner {t o w i : Int} (ht : 0 < t) (ho : 0 ≤ o) (hw : 0 < w) (how : o + w ≤ t) :
    (o + i * t) / t ≤ i ∧ i ≤ (o + i * t + w - 1) / t := by
  rw [Int.le_ediv_iff_mul_le ht]
  refine ⟨?_, by omega⟩
  rw [Int.add_mul_ediv_right _ _ (by omega), Int.ediv_eq_zero_of_lt ho (by omega)]
  omega

/-- A rectangle that touches free cells only is not blocked. -/
lemma blocks_eq_false (hm : m.Fits) (hr : r.InTile m.edge) {lo hi : Cell} {p : Position}
    (hx : lo.col * m.edge ≤ p.x ∧ p.x ≤ hi.col * m.edge)
    (hy : lo.row * m.edge ≤ p.y ∧ p.y ≤ hi.row * m.edge)
    (hfree : ∀ c : Cell, (lo.col ≤ c.col ∧ c.col ≤ hi.col) → (lo.row ≤ c.row ∧ c.row ≤ hi.row) →
      m.Free c) :
    m.blocks (r.translated p.x p.y) = false := by
  have hedge := hm.edge_pos
  have hcol : lo.col ≤ hi.col := Int.le_of_mul_le_mul_right (hx.1.trans hx.2) hedge
  have hrow : lo.row ≤ hi.row := Int.le_of_mul_le_mul_right (hy.1.trans hy.2) hedge
  have hlo := hfree lo ⟨le_rfl, hcol⟩ ⟨le_rfl, hrow⟩
  have hhi := hfree hi ⟨hcol, le_rfl⟩ ⟨hrow, le_rfl⟩
  have hinside : m.bounds.contains (r.translated p.x p.y) = true := by
    have h1 : 0 ≤ lo.col * m.edge := Int.mul_nonneg hlo.1.1 (by omega)
    have h2 : 0 ≤ lo.row * m.edge := Int.mul_nonneg hlo.2.1.1 (by omega)
    have h3 : (hi.col + 1) * m.edge ≤ m.columns * m.edge :=
      Int.mul_le_mul_of_nonneg_right (by have := hhi.1.2; omega) (by omega)
    have h4 : (hi.row + 1) * m.edge ≤ m.rows * m.edge :=
      Int.mul_le_mul_of_nonneg_right (by have := hhi.2.1.2; omega) (by omega)
    rw [Int.add_mul] at h3 h4
    have := hr.left
    have := hr.top
    have := hr.right
    have := hr.bottom
    simp only [hm.bounds_eq, Rect.contains, Rect.translated, Rect.right, Rect.bottom,
      Bool.and_eq_true, decide_eq_true_eq]
    omega
  have hsolid : m.touchesSolid (r.translated p.x p.y) = false := by
    rw [Bool.eq_false_iff]
    intro h
    obtain ⟨col, row, hc, hr', hs⟩ := touchesSolid_iff.1 h
    have h1 := touched_between hedge hr.left hr.right hx.1 hx.2 hc.1 hc.2
    have h2 := touched_between hedge hr.top hr.bottom hy.1 hy.2 hr'.1 hr'.2
    have hcell := (hfree ⟨col, row⟩ h1 h2).2.2
    rw [hs] at hcell
    cases hcell
  simp [blocks, hinside, hsolid]

/-- A cell on which the rectangle stays within the map lies in the grid. -/
lemma isSolid_of_contains (hm : m.Fits) (hr : r.InTile m.edge) {c : Cell}
    (hin : m.bounds.contains (r.translated (m.corner c).x (m.corner c).y) = true)
    (hc : ¬m.Free c) : m.isSolid c.col.toNat c.row.toNat = true := by
  have hedge := hm.edge_pos
  simp only [hm.bounds_eq, Rect.contains, Rect.translated, Rect.right, Rect.bottom, corner,
    Bool.and_eq_true, decide_eq_true_eq] at hin
  obtain ⟨⟨⟨hleft, htop⟩, hright⟩, hbottom⟩ := hin
  obtain ⟨h1, h2, h3, h4, h5, h6⟩ := hr
  have hcol0 : -1 < c.col :=
    lt_of_mul_lt_mul_right (by omega : -1 * m.edge < c.col * m.edge) hedge.le
  have hrow0 : -1 < c.row :=
    lt_of_mul_lt_mul_right (by omega : -1 * m.edge < c.row * m.edge) hedge.le
  have hcol : c.col < m.columns :=
    lt_of_mul_lt_mul_right (by omega : c.col * m.edge < m.columns * m.edge) hedge.le
  have hrow : c.row < m.rows :=
    lt_of_mul_lt_mul_right (by omega : c.row * m.edge < m.rows * m.edge) hedge.le
  by_contra hsolid
  exact hc ⟨⟨by omega, hcol⟩, ⟨by omega, hrow⟩, by simpa using hsolid⟩

/-- On the corner of a cell a rectangle within a tile is blocked unless the cell is free. -/
lemma blocks_corner (hm : m.Fits) (hr : r.InTile m.edge) (c : Cell) :
    m.blocks (r.translated (m.corner c).x (m.corner c).y) = !decide (m.Free c) := by
  have hedge := hm.edge_pos
  by_cases hc : m.Free c
  · have hfree : ∀ c' : Cell, (c.col ≤ c'.col ∧ c'.col ≤ c.col) →
        (c.row ≤ c'.row ∧ c'.row ≤ c.row) → m.Free c' := by
      intro c' h1 h2
      rwa [show c' = c from Cell.ext (by omega) (by omega)]
    rw [blocks_eq_false hm hr ⟨le_rfl, le_rfl⟩ ⟨le_rfl, le_rfl⟩ hfree]
    simp [hc]
  · rw [decide_eq_false hc, Bool.not_false]
    by_cases hin : m.bounds.contains (r.translated (m.corner c).x (m.corner c).y) = true
    · -- within the map the cell itself is solid, and it is touched
      have hsolid := isSolid_of_contains hm hr hin hc
      have hx := touched_corner (i := c.col) hedge hr.left hr.width hr.right
      have hy := touched_corner (i := c.row) hedge hr.top hr.height hr.bottom
      have htouch : m.touchesSolid (r.translated (m.corner c).x (m.corner c).y) = true :=
        touchesSolid_iff.2 ⟨c.col, c.row, hx, hy, hsolid⟩
      have hwidth : 0 < (r.translated (m.corner c).x (m.corner c).y).width := hr.width
      have hheight : 0 < (r.translated (m.corner c).x (m.corner c).y).height := hr.height
      simp [blocks, htouch, hwidth, hheight]
    · simp [blocks, hin]

/-- Between two free cells side by side nothing is in the way. -/
lemma blocks_segment (hm : m.Fits) (hr : r.InTile m.edge) {lo hi : Cell} {p : Position}
    (hlo : m.Free lo) (hhi : m.Free hi)
    (hside : (lo.col = hi.col ∧ hi.row = lo.row + 1) ∨ (lo.row = hi.row ∧ hi.col = lo.col + 1))
    (hx : lo.col * m.edge ≤ p.x ∧ p.x ≤ hi.col * m.edge)
    (hy : lo.row * m.edge ≤ p.y ∧ p.y ≤ hi.row * m.edge) :
    m.blocks (r.translated p.x p.y) = false := by
  refine blocks_eq_false hm hr hx hy fun c h1 h2 => ?_
  have hc : (c.col = lo.col ∧ c.row = lo.row) ∨ (c.col = hi.col ∧ c.row = hi.row) := by omega
  rcases hc with ⟨hcol, hrow⟩ | ⟨hcol, hrow⟩
  · rwa [show c = lo from Cell.ext hcol hrow]
  · rwa [show c = hi from Cell.ext hcol hrow]

/-- On the way from a free cell to a free neighbour nothing is in the way. -/
lemma blocks_between (hm : m.Fits) (hr : r.InTile m.edge) {c : Cell} {d : Direction}
    (hc : m.Free c) (hd : m.Free (c.next d)) {k : Int} (h0 : 0 ≤ k) (hk : k ≤ m.edge) :
    m.blocks (r.translated ((m.corner c).offset (d.delta.1 * k) (d.delta.2 * k)).x
      ((m.corner c).offset (d.delta.1 * k) (d.delta.2 * k)).y) = false := by
  rw [hm.offset_corner hc d h0 hk]
  cases d with
  | up | left =>
    refine blocks_segment hm hr hd hc ?_ ?_ ?_ <;>
      simp only [Cell.next, Direction.delta, Int.add_mul] <;> omega
  | down | right =>
    refine blocks_segment hm hr hc hd ?_ ?_ ?_ <;>
      simp only [Cell.next, Direction.delta, Int.add_mul, and_true] <;> omega

end Touched

end TileMap

end GridScript
