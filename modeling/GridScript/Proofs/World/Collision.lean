import GridScript.Grid.MapText
import GridScript.Proofs.Grid.Cells
import GridScript.Proofs.Grid.Points
import GridScript.World.Basic
import Mathlib.Data.Int.Interval
import Mathlib.Data.Set.Card

/-!
What is in the way of a rectangle, point by point.

A map bars the points off it and the points of its solid tiles; a thing or a person is in the way if
more than five columns and more than five rows of points are common. Looking at whole tiles and at
the edges of the rectangles comes to the same thing.
-/

namespace GridScript

/-! ### Maps -/

namespace TileMap

/-- The maps that come of an empty map or of a text, with any tiles replaced and any ids solid. -/
inductive Made : TileMap → Prop where
  | ofSize (columns rows : Nat) (tileSize : UInt32) : Made (ofSize columns rows tileSize)
  | parse {text : List Char} {tileSize : UInt32} {m : TileMap}
      (h : TileMap.parse text tileSize = .ok m) : Made m
  | withSolid {m : TileMap} (h : Made m) (ids : List UInt8) : Made (m.withSolid ids)
  | setTile {m : TileMap} (h : Made m) (col row : Nat) (id : UInt8) : Made (m.setTile col row id)

/-- All pixels of the map have coordinates. -/
structure HasExtent (m : TileMap) : Prop where
  columns : m.columns * m.tileSize.toNat ≤ maxLength
  rows : m.rows * m.tileSize.toNat ≤ maxLength

/-- The point lies on the map. -/
def Covers (m : TileMap) (p : Position) : Prop :=
  (0 ≤ p.x ∧ p.x < (m.columns * m.tileSize.toNat : Nat)) ∧
    0 ≤ p.y ∧ p.y < (m.rows * m.tileSize.toNat : Nat)

/-- The tile under a point of the map. -/
def tileAt? (m : TileMap) (p : Position) : Option UInt8 :=
  m.tile? (p.x / m.tileSize.toNat).toNat (p.y / m.tileSize.toNat).toNat

/-- The point lies off the map or on a solid tile. -/
def Bars (m : TileMap) (p : Position) : Prop :=
  ¬m.Covers p ∨ ∃ id, m.tileAt? p = some id ∧ id ∈ m.solid

variable {m : TileMap}

lemma tileSize_setTile (m : TileMap) (col row : Nat) (id : UInt8) :
    (m.setTile col row id).tileSize = m.tileSize := by
  unfold setTile
  split <;> rfl

lemma tileSize_parse {text : List Char} {tileSize : UInt32}
    (h : TileMap.parse text tileSize = .ok m) : m.tileSize = atLeastOne tileSize := by
  unfold TileMap.parse at h
  split at h
  · cases h
  · rename_i first rest _
    cases hids : readRows first.length 0 (first :: rest) with
    | error e =>
      rw [hids] at h
      cases h
    | ok ids =>
      rw [hids] at h
      exact congrArg TileMap.tileSize (Except.ok.inj h).symm

/-- A tile is one pixel wide at least. -/
lemma Made.tileSize_pos (h : m.Made) : 0 < m.tileSize.toNat := by
  induction h with
  | ofSize columns rows tileSize => exact atLeastOne_pos tileSize
  | parse h => exact tileSize_parse h ▸ atLeastOne_pos _
  | withSolid h ids ih => exact ih
  | setTile h col row id ih => exact (tileSize_setTile _ col row id).symm ▸ ih

lemma isSolid_eq_true_iff {col row : Nat} :
    m.isSolid col row = true ↔ ∃ id, m.tile? col row = some id ∧ id ∈ m.solid := by
  simp only [isSolid, Option.any_eq_true, TileSet.contains_iff]

/-- On one axis: a stretch has a point on a tile if and only if the tile lies between its ends. -/
lemma exists_ediv_eq {lo hi t i : Int} (ht : 0 < t) (h : lo < hi) :
    (∃ x, (lo ≤ x ∧ x < hi) ∧ x / t = i) ↔ lo / t ≤ i ∧ i ≤ (hi - 1) / t := by
  refine ⟨?_, fun ⟨hfirst, hlast⟩ => ?_⟩
  · rintro ⟨x, ⟨hlo, hhi⟩, rfl⟩
    exact ⟨Int.ediv_le_ediv ht hlo, Int.ediv_le_ediv ht (by omega)⟩
  · rw [Int.le_ediv_iff_mul_le ht] at hlast
    rcases le_total lo (i * t) with hle | hle
    · exact ⟨i * t, ⟨hle, by omega⟩, Int.mul_ediv_cancel i (by omega)⟩
    · refine ⟨lo, ⟨le_rfl, h⟩, le_antisymm hfirst ?_⟩
      rwa [Int.le_ediv_iff_mul_le ht]

lemma edge_le (m : TileMap) : m.edge ≤ m.tileSize.toNat := by
  unfold edge pixels
  omega

lemma HasExtent.edge_eq (h : m.HasExtent) (hcolumns : 0 < m.columns) : m.edge = m.tileSize.toNat := by
  have hone : 1 * m.tileSize.toNat ≤ m.columns * m.tileSize.toNat :=
    Nat.mul_le_mul_right _ hcolumns
  have := h.columns
  rw [edge, pixels_of_le (by omega)]

lemma HasExtent.columns_le (h : m.HasExtent) : m.columns * m.edge ≤ maxLength :=
  (Int.mul_le_mul_of_nonneg_left m.edge_le (Int.natCast_nonneg _)).trans (by exact_mod_cast h.columns)

lemma HasExtent.rows_le (h : m.HasExtent) : m.rows * m.edge ≤ maxLength :=
  (Int.mul_le_mul_of_nonneg_left m.edge_le (Int.natCast_nonneg _)).trans (by exact_mod_cast h.rows)

/-- A map without cells lets nothing in. -/
lemma contains_eq_false_of_empty (hempty : m.columns = 0 ∨ m.rows = 0) {r : Rect}
    (hwidth : 0 < r.width) (hheight : 0 < r.height) : m.bounds.contains r = false := by
  have hzero : wrap (cellCoordinate 0 * m.edge) = 0 := by
    rw [wrap_cellCoordinate_mul, Nat.cast_zero, Int.zero_mul, wrap_zero]
  rw [Bool.eq_false_iff]
  intro h
  simp only [Rect.contains, Bool.and_eq_true, decide_eq_true_eq] at h
  simp only [bounds, Rect.right, Rect.bottom] at h
  rcases hempty with hn | hn <;> rw [hn, hzero] at h <;> omega

lemma not_covers_of_empty (hempty : m.columns = 0 ∨ m.rows = 0) (p : Position) : ¬m.Covers p := by
  rintro ⟨⟨hx, hx'⟩, hy, hy'⟩
  rcases hempty with h | h
  · rw [h, Nat.zero_mul] at hx'
    omega
  · rw [h, Nat.zero_mul] at hy'
    omega

/-- A rectangle lies between the edges of the map if and only if its points lie on the map. -/
lemma contains_iff_covers (hm : m.HasExtent) (hcolumns : 0 < m.columns)
    {r : Rect} (hwidth : 0 < r.width) (hheight : 0 < r.height) :
    m.bounds.contains r = true ↔ ∀ p, r.Holds p → m.Covers p := by
  have hbounds : m.bounds =
      ⟨0, 0, (m.columns * m.tileSize.toNat : Nat), (m.rows * m.tileSize.toNat : Nat)⟩ := by
    rw [bounds, wrap_extent hm.columns_le, wrap_extent hm.rows_le, hm.edge_eq hcolumns]
    rfl
  simp only [hbounds, Rect.contains, Rect.right, Rect.bottom, Bool.and_eq_true, decide_eq_true_eq,
    Rect.Holds, Covers]
  refine ⟨fun h p hp => by omega, fun h => ?_⟩
  -- the first and the last point of the rectangle decide
  have hfirst := h ⟨r.x, r.y⟩ (by dsimp only; omega)
  have hlast := h ⟨r.x + r.width - 1, r.y + r.height - 1⟩ (by dsimp only; omega)
  dsimp only at hfirst hlast
  omega

/-- A rectangle touches a solid tile if and only if one of its points lies on one. -/
lemma touchesSolid_iff_exists (hedge : 0 < m.edge) {r : Rect} (hwidth : 0 < r.width)
    (hheight : 0 < r.height) :
    m.touchesSolid r = true ↔
      ∃ p, r.Holds p ∧ m.isSolid (p.x / m.edge).toNat (p.y / m.edge).toNat = true := by
  obtain ⟨-, hx, -, hy⟩ := Rect.holds_corner hwidth hheight
  rw [touchesSolid_iff]
  constructor
  · rintro ⟨col, row, hcol, hrow, hsolid⟩
    obtain ⟨x, hx, rfl⟩ := (exists_ediv_eq hedge hx).2 hcol
    obtain ⟨y, hy, rfl⟩ := (exists_ediv_eq hedge hy).2 hrow
    exact ⟨⟨x, y⟩, ⟨hx.1, hx.2, hy⟩, hsolid⟩
  · rintro ⟨p, ⟨hx1, hx2, hy'⟩, hsolid⟩
    exact ⟨p.x / m.edge, p.y / m.edge, (exists_ediv_eq hedge hx).1 ⟨p.x, ⟨hx1, hx2⟩, rfl⟩,
      (exists_ediv_eq hedge hy).1 ⟨p.y, hy', rfl⟩, hsolid⟩

/-- A map blocks a rectangle if and only if it bars one of its points. -/
lemma blocks_iff (hmade : m.Made) (hm : m.HasExtent) {r : Rect} (hwidth : 0 < r.width)
    (hheight : 0 < r.height) : m.blocks r = true ↔ ∃ p, r.Holds p ∧ m.Bars p := by
  have ht := hmade.tileSize_pos
  by_cases hempty : m.columns = 0 ∨ m.rows = 0
  · have hout := not_covers_of_empty hempty
    refine ⟨fun _ => ⟨_, Rect.holds_corner hwidth hheight, .inl (hout _)⟩, fun _ => ?_⟩
    rw [blocks, contains_eq_false_of_empty hempty hwidth hheight]
    rfl
  · have hcolumns : 0 < m.columns := by omega
    have hcontains := contains_iff_covers hm hcolumns hwidth hheight
    have hedge := hm.edge_eq hcolumns
    have htouches : m.touchesSolid r = true ↔
        ∃ p, r.Holds p ∧ ∃ id, m.tileAt? p = some id ∧ id ∈ m.solid := by
      simp only [touchesSolid_iff_exists (by omega : 0 < m.edge) hwidth hheight,
        isSolid_eq_true_iff, hedge, tileAt?]
    simp only [blocks, Bool.or_eq_true, Bool.not_eq_true', Bool.and_eq_true, decide_eq_true_eq,
      hwidth, hheight, true_and, htouches, ← Bool.not_eq_true, hcontains, not_forall, Bars]
    constructor
    · rintro (⟨p, hp, hout⟩ | ⟨p, hp, hid⟩)
      · exact ⟨p, hp, .inl hout⟩
      · exact ⟨p, hp, .inr hid⟩
    · rintro ⟨p, hp, hout | hid⟩
      · exact .inl ⟨p, hp, hout⟩
      · exact .inr ⟨p, hp, hid⟩

end TileMap

/-! ### Things and persons -/

namespace Rect

/-- The columns in which two rectangles have common points. -/
def commonColumns (a b : Rect) : Set Int := { x | ∃ y, a.Holds ⟨x, y⟩ ∧ b.Holds ⟨x, y⟩ }

/-- The rows in which two rectangles have common points. -/
def commonRows (a b : Rect) : Set Int := { y | ∃ x, a.Holds ⟨x, y⟩ ∧ b.Holds ⟨x, y⟩ }

/-- More than five columns and more than five rows of points are common. -/
def Overlaps (a b : Rect) : Prop := 5 < (a.commonColumns b).ncard ∧ 5 < (a.commonRows b).ncard

lemma ncard_between (lo hi : Int) : { x : Int | lo ≤ x ∧ x < hi }.ncard = (hi - lo).toNat := by
  have hset : { x : Int | lo ≤ x ∧ x < hi } = Finset.Ico lo hi := by
    ext x
    simp
  rw [hset, Set.ncard_coe_finset, Int.card_Ico]

lemma commonColumns_eq (a b : Rect) (h : max a.y b.y < min a.bottom b.bottom) :
    a.commonColumns b = { x | max a.x b.x ≤ x ∧ x < min a.right b.right } := by
  ext x
  simp only [commonColumns, Holds, Set.mem_ofPred_eq]
  constructor
  · rintro ⟨y, hy⟩
    omega
  · exact fun hx => ⟨max a.y b.y, by omega⟩

lemma commonRows_eq (a b : Rect) (h : max a.x b.x < min a.right b.right) :
    a.commonRows b = { y | max a.y b.y ≤ y ∧ y < min a.bottom b.bottom } := by
  ext y
  simp only [commonRows, Holds, Set.mem_ofPred_eq]
  constructor
  · rintro ⟨x, hx⟩
    omega
  · exact fun hy => ⟨max a.x b.x, by omega⟩

/-- The edges tell how many columns and rows are common. -/
lemma overlaps_iff {a b : Rect} :
    a.Overlaps b ↔ 5 < min a.right b.right - max a.x b.x ∧ 5 < min a.bottom b.bottom - max a.y b.y := by
  have hcommon : ∀ {s : Set Int}, 5 < s.ncard → s.Nonempty := fun h =>
    Set.nonempty_of_ncard_ne_zero (by omega)
  constructor
  · rintro ⟨hx, hy⟩
    obtain ⟨x, y, h⟩ := hcommon hx
    unfold Holds at h
    dsimp only at h
    rw [commonColumns_eq a b (by omega), ncard_between] at hx
    rw [commonRows_eq a b (by omega), ncard_between] at hy
    omega
  · rintro ⟨hx, hy⟩
    rw [Overlaps, commonColumns_eq a b (by omega), commonRows_eq a b (by omega), ncard_between,
      ncard_between]
    omega

end Rect

namespace World

lemma collides_iff {a b : Rect} : collides a b = true ↔ a.Overlaps b := by
  rw [Rect.overlaps_iff, collides, Rect.intersection]
  split
  · simp only [Option.any_some, Bool.and_eq_true, decide_eq_true_eq]
    exact Iff.rfl
  · rename_i hnot
    simp only [Option.any_none, Bool.false_eq_true, false_iff]
    simp only [Rect.intersects, Bool.and_eq_true, decide_eq_true_eq] at hnot
    omega

end World

end GridScript
