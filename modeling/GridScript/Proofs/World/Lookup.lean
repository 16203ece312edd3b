import GridScript.Proofs.Grid.Tiles
import GridScript.Proofs.World.Collision
import GridScript.Proofs.World.Encoding

/-!
Looking up the tiles under a rectangle, step by step.

`checkedBlocks` decides whether a map blocks a rectangle, with a check before each step that could
go wrong: coordinates have 32 bits and places 64, a division asks for a positive divisor, a
coordinate that becomes an index may not be negative, and only a stored tile is read. The map may be
any at all, also one whose tiles are of size zero or do not fill the grid. The answer is that of
`blocks`, and no check fails but one for a number that is too large; none fails at all if the extent
of the map and the edges of the rectangle are coordinates.
-/

namespace GridScript

/-- What can go wrong in a lookup. -/
inductive Mishap where
  /-- A number does not fit its word. -/
  | overflow (value : Int)
  | badDivisor (divisor : Int)
  | negativeIndex (i : Int)
  /-- There is no tile to read. -/
  | unstored (place : Nat)
deriving DecidableEq

lemma IsCoordinate.pred {i : Int} (h : IsCoordinate i) (hi : 0 < i) : IsCoordinate (i - 1) := by
  unfold IsCoordinate at h ⊢
  omega

/-! ### Checked steps -/

namespace Checked

/-- A value, if the check for it succeeds. -/
def require (p : Prop) [Decidable p] (e : Mishap) (a : α) : Except Mishap α :=
  if p then .ok a else .error e

def coordinate (i : Int) : Except Mishap Int := require (IsCoordinate i) (.overflow i) i

def place (n : Nat) : Except Mishap Nat := require (n < UInt64.size) (.overflow n) n

def quotient (a b : Int) : Except Mishap Int := require (1 ≤ b) (.badDivisor b) (a / b)

def index (i : Int) : Except Mishap Nat := require (0 ≤ i) (.negativeIndex i) i.toNat

def stored (tiles : Array UInt8) (n : Nat) : Except Mishap UInt8 :=
  if h : n < tiles.size then .ok tiles[n] else .error (.unstored n)

/-- A computation has a result, unless a mishap ends it that is put up with. -/
def Gives (tolerated : Mishap → Prop) (x : Except Mishap α) (a : α) : Prop :=
  x = .ok a ∨ ∃ e, tolerated e ∧ x = .error e

variable {tolerated : Mishap → Prop}

lemma gives_ok (a : α) : Gives tolerated (.ok a) a := .inl rfl

lemma Gives.bind {x : Except Mishap α} {f : α → Except Mishap β} {a : α} {b : β}
    (hx : Gives tolerated x a) (hf : Gives tolerated (f a) b) : Gives tolerated (x >>= f) b := by
  obtain rfl | ⟨e, he, rfl⟩ := hx
  · exact hf
  · exact .inr ⟨e, he, rfl⟩

lemma gives_anyM {f : α → Except Mishap Bool} {p : α → Bool} {as : List α}
    (h : ∀ a ∈ as, Gives tolerated (f a) (p a)) : Gives tolerated (as.anyM f) (as.any p) := by
  induction as with
  | nil => exact gives_ok false
  | cons a as ih =>
    obtain ⟨ha, has⟩ := List.forall_mem_cons.1 h
    rw [List.anyM, List.any_cons]
    refine ha.bind ?_
    cases p a with
    | true => exact gives_ok true
    | false => exact ih has

lemma gives_require {p : Prop} [Decidable p] {e : Mishap} {a : α} (h : p ∨ tolerated e) :
    Gives tolerated (require p e a) a := by
  unfold require
  split
  · exact gives_ok a
  · rename_i hp
    exact .inr ⟨e, h.resolve_left hp, rfl⟩

lemma gives_coordinate {i : Int} (h : IsCoordinate i ∨ ∀ n, tolerated (.overflow n)) :
    Gives tolerated (coordinate i) i := gives_require (h.imp_right fun h => h i)

lemma gives_place {n : Nat} (h : n < UInt64.size ∨ ∀ n, tolerated (.overflow n)) :
    Gives tolerated (place n) n := gives_require (h.imp_right fun h => h n)

lemma gives_quotient (a : Int) {b : Int} (hb : 1 ≤ b) : Gives tolerated (quotient a b) (a / b) :=
  gives_require (.inl hb)

lemma gives_index {i : Int} (hi : 0 ≤ i) : Gives tolerated (index i) i.toNat :=
  gives_require (.inl hi)

lemma gives_stored {tiles : Array UInt8} {n : Nat} (h : n < tiles.size) :
    Gives tolerated (stored tiles n) tiles[n] := .inl (dif_pos h)

end Checked

/-! ### Checked lookups -/

namespace TileMap

open Checked

/-- The tile of a cell, if one is stored. -/
def checkedTile? (m : TileMap) (col row : Int) : Except Mishap (Option UInt8) := do
  let col ← index col
  let row ← index row
  if col < m.columns ∧ row < m.rows then
    let n ← place (row * m.columns + col)
    if n < m.tiles.size then
      let id ← stored m.tiles n
      pure (some id)
    else pure none
  else pure none

/-- A rectangle with a width and a height touches a solid tile. All cells that it touches are looked
up, with a stored tile or without. -/
def checkedTouchesSolid (m : TileMap) (r : Rect) : Except Mishap Bool := do
  let lastX ← coordinate (r.right - 1)
  let lastY ← coordinate (r.bottom - 1)
  let firstColumn ← quotient r.x m.edge
  let lastColumn ← quotient lastX m.edge
  let firstRow ← quotient r.y m.edge
  let lastRow ← quotient lastY m.edge
  (span firstRow lastRow).anyM fun row =>
    (span firstColumn lastColumn).anyM fun col => do
      let tile ← m.checkedTile? col row
      pure (tile.any m.solid.contains)

/-- The rectangle leaves the map or touches a solid tile. -/
def checkedBlocks (m : TileMap) (r : Rect) : Except Mishap Bool := do
  let _ ← coordinate (cellCoordinate m.columns * m.edge)
  let _ ← coordinate (cellCoordinate m.rows * m.edge)
  let _ ← coordinate r.right
  let _ ← coordinate r.bottom
  if !m.bounds.contains r then pure true
  else if r.width ≤ 0 ∨ r.height ≤ 0 then pure false
  else m.checkedTouchesSolid r

/-- The extent of the map and the edges of the rectangle are coordinates. -/
structure InCoordinates (m : TileMap) (r : Rect) : Prop where
  width : IsCoordinate (m.columns * m.edge)
  height : IsCoordinate (m.rows * m.edge)
  right : IsCoordinate r.right
  bottom : IsCoordinate r.bottom

variable {m : TileMap} {r : Rect} {tolerated : Mishap → Prop}

lemma le_maxLength_of_edge {n : Nat} (hedge : 1 ≤ m.edge) (h : IsCoordinate (n * m.edge)) :
    n ≤ maxLength := by
  have hle : (n : Int) * 1 ≤ n * m.edge := Int.mul_le_mul_of_nonneg_left hedge (by omega)
  have := h.2
  unfold maxLength
  omega

/-- An extent that is a coordinate is computed without loss. -/
lemma isCoordinate_extent {n : Nat} (h : IsCoordinate (n * m.edge)) :
    IsCoordinate (cellCoordinate n * m.edge) := by
  rcases m.edge_nonneg.lt_or_eq with hedge | hedge
  · have hn := le_maxLength_of_edge hedge h
    have hcount : IsCoordinate (n : Int) := isCoordinate_of_natAbs_le (by omega)
    rwa [cellCoordinate_eq_wrap, hcount.wrap_eq]
  · rw [← hedge, Int.mul_zero]
    decide

/-- The places of all cells fit 64 bits. -/
lemma place_lt_of_inCoordinates (hedge : 1 ≤ m.edge) (hm : m.InCoordinates r) {col row : Nat}
    (hcol : col < m.columns) (hrow : row < m.rows) : row * m.columns + col < UInt64.size :=
  calc row * m.columns + col < m.columns * m.rows := place_lt hcol hrow
    _ ≤ maxLength * maxLength :=
      Nat.mul_le_mul (le_maxLength_of_edge hedge hm.width) (le_maxLength_of_edge hedge hm.height)
    _ ≤ UInt64.size := by norm_num [maxLength, UInt64.size]

/-- Where a tile is looked for, the division is sound and no coordinate is negative. -/
lemma sound_of_contains (hin : m.bounds.contains r = true) (hwidth : 0 < r.width) :
    1 ≤ m.edge ∧ 0 ≤ r.x ∧ 0 ≤ r.y := by
  simp only [Rect.contains, Bool.and_eq_true, decide_eq_true_eq] at hin
  simp only [bounds, Rect.right] at hin
  refine ⟨?_, by omega, by omega⟩
  by_contra hedge
  have hzero : m.edge = 0 := by
    have := m.edge_nonneg
    omega
  rw [hzero, Int.mul_zero, wrap_zero] at hin
  omega

lemma gives_tile? {col row : Int} (hcol : 0 ≤ col) (hrow : 0 ≤ row) (hedge : 1 ≤ m.edge)
    (h : m.InCoordinates r ∨ ∀ n, tolerated (.overflow n)) :
    Gives tolerated (m.checkedTile? col row) (m.tile? col.toNat row.toNat) := by
  unfold checkedTile? tile?
  refine (gives_index hcol).bind ((gives_index hrow).bind ?_)
  split
  · rename_i hcell
    have hplace := h.imp_left fun hm => place_lt_of_inCoordinates hedge hm hcell.1 hcell.2
    refine (gives_place hplace).bind ?_
    split
    · rename_i hstored
      rw [Array.getElem?_eq_getElem hstored]
      exact (gives_stored hstored).bind (gives_ok _)
    · rename_i hstored
      rw [Array.getElem?_eq_none (Nat.le_of_not_lt hstored)]
      exact gives_ok none
  · exact gives_ok none

/-- To look all touched cells up, with a stored tile or without, comes to the same. -/
lemma any_span_isSolid (m : TileMap) (r : Rect) :
    ((span (r.y / m.edge) ((r.bottom - 1) / m.edge)).any fun row =>
      (span (r.x / m.edge) ((r.right - 1) / m.edge)).any fun col =>
        m.isSolid col.toNat row.toNat) = m.touchesSolid r := by
  rw [Bool.eq_iff_iff, touchesSolid_iff]
  simp only [List.any_eq_true, mem_span]
  constructor
  · rintro ⟨row, hrow, col, hcol, hsolid⟩
    exact ⟨col, row, hcol, hrow, hsolid⟩
  · rintro ⟨col, row, hcol, hrow, hsolid⟩
    exact ⟨row, hrow, col, hcol, hsolid⟩

lemma gives_touchesSolid (hin : m.bounds.contains r = true) (hwidth : 0 < r.width)
    (hheight : 0 < r.height) (h : m.InCoordinates r ∨ ∀ n, tolerated (.overflow n)) :
    Gives tolerated (m.checkedTouchesSolid r) (m.touchesSolid r) := by
  obtain ⟨hedge, hx, hy⟩ := sound_of_contains hin hwidth
  have hright : 0 < r.right := Int.add_pos_of_nonneg_of_pos hx hwidth
  have hbottom : 0 < r.bottom := Int.add_pos_of_nonneg_of_pos hy hheight
  rw [← any_span_isSolid]
  refine (gives_coordinate (h.imp_left fun hm => hm.right.pred hright)).bind
    ((gives_coordinate (h.imp_left fun hm => hm.bottom.pred hbottom)).bind
      ((gives_quotient _ hedge).bind ((gives_quotient _ hedge).bind
        ((gives_quotient _ hedge).bind ((gives_quotient _ hedge).bind ?_)))))
  refine gives_anyM fun row hrow => gives_anyM fun col hcol => ?_
  have hcol' : 0 ≤ col := (Int.ediv_nonneg hx m.edge_nonneg).trans (mem_span.1 hcol).1
  have hrow' : 0 ≤ row := (Int.ediv_nonneg hy m.edge_nonneg).trans (mem_span.1 hrow).1
  exact (gives_tile? hcol' hrow' hedge h).bind (gives_ok _)

/-- The checked lookup gives the answer of the other one, unless a number is too large. -/
lemma gives_blocks (h : m.InCoordinates r ∨ ∀ n, tolerated (.overflow n)) :
    Gives tolerated (m.checkedBlocks r) (m.blocks r) := by
  have hcolumns : IsCoordinate (cellCoordinate m.columns * m.edge) ∨ ∀ n, tolerated (.overflow n) :=
    h.imp_left fun hm => isCoordinate_extent hm.width
  have hrows : IsCoordinate (cellCoordinate m.rows * m.edge) ∨ ∀ n, tolerated (.overflow n) :=
    h.imp_left fun hm => isCoordinate_extent hm.height
  refine (gives_coordinate hcolumns).bind ((gives_coordinate hrows).bind
    ((gives_coordinate (h.imp_left InCoordinates.right)).bind
      ((gives_coordinate (h.imp_left InCoordinates.bottom)).bind ?_)))
  cases hin : m.bounds.contains r with
  | false =>
    have hblocks : m.blocks r = true := by simp [blocks, hin]
    rw [hblocks]
    exact gives_ok true
  | true =>
    rw [Bool.not_true, if_neg Bool.false_ne_true]
    split
    · rename_i hsize
      have hblocks : m.blocks r = false := by
        rcases hsize with hwidth | hheight
        · simp [blocks, hin, Int.not_lt.2 hwidth]
        · simp [blocks, hin, Int.not_lt.2 hheight]
      rw [hblocks]
      exact gives_ok false
    · rename_i hsize
      have hwidth : 0 < r.width := by omega
      have hheight : 0 < r.height := by omega
      have hblocks : m.blocks r = m.touchesSolid r := by simp [blocks, hin, hwidth, hheight]
      rw [hblocks]
      exact gives_touchesSolid hin hwidth hheight h

/-! ### Stored tiles -/

/-- The place of the tile under a point of the map, if it is stored. -/
def placeAt (m : TileMap) (p : Position) : Nat :=
  (p.y / m.edge).toNat * m.columns + (p.x / m.edge).toNat

lemma isSolid_iff_stored {col row : Nat} :
    m.isSolid col row = true ↔
      (col < m.columns ∧ row < m.rows) ∧
        ∃ h : row * m.columns + col < m.tiles.size, m.tiles[row * m.columns + col] ∈ m.solid := by
  rw [isSolid_eq_true_iff, tile?]
  split
  · rename_i hcell
    rw [and_iff_right hcell]
    constructor
    · rintro ⟨id, hid, hsolid⟩
      obtain ⟨hplace, rfl⟩ := Array.getElem?_eq_some_iff.1 hid
      exact ⟨hplace, hsolid⟩
    · rintro ⟨hplace, hsolid⟩
      exact ⟨_, Array.getElem?_eq_getElem hplace, hsolid⟩
  · rename_i hcell
    simp [hcell]

/-- The extent of the map comes to no more when it wraps around. -/
lemma wrap_extent_le (n : Nat) : wrap (cellCoordinate n * m.edge) ≤ n * m.edge := by
  rw [wrap_cellCoordinate_mul]
  exact wrap_le_of_nonneg (Int.mul_nonneg (Int.natCast_nonneg n) m.edge_nonneg)

lemma ends_of_contains (hin : m.bounds.contains r = true) :
    r.right ≤ m.columns * m.edge ∧ r.bottom ≤ m.rows * m.edge := by
  simp only [Rect.contains, Bool.and_eq_true, decide_eq_true_eq] at hin
  have hcolumns := m.wrap_extent_le m.columns
  have hrows := m.wrap_extent_le m.rows
  simp only [bounds, Rect.right, Rect.bottom] at hin ⊢
  omega

/-- A point of a rectangle on the map lies in a cell of the grid. -/
lemma inGrid_of_holds (hin : m.bounds.contains r = true) {p : Position} (hp : r.Holds p) :
    (0 ≤ p.x / m.edge ∧ p.x / m.edge < m.columns) ∧
      0 ≤ p.y / m.edge ∧ p.y / m.edge < m.rows := by
  obtain ⟨hedge, hx, hy⟩ := sound_of_contains hin (Rect.size_pos_of_holds hp).1
  obtain ⟨hright, hbottom⟩ := ends_of_contains hin
  obtain ⟨hleft, hbefore, htop, habove⟩ := hp
  exact ⟨⟨Int.ediv_nonneg (hx.trans hleft) m.edge_nonneg,
      (Int.ediv_lt_iff_lt_mul hedge).2 (hbefore.trans_le hright)⟩,
    Int.ediv_nonneg (hy.trans htop) m.edge_nonneg,
    (Int.ediv_lt_iff_lt_mul hedge).2 (habove.trans_le hbottom)⟩

/-- A rectangle on the map is blocked if and only if one of its points lies on a stored tile that is
solid. -/
lemma blocks_iff_stored (hin : m.bounds.contains r = true) :
    m.blocks r = true ↔
      ∃ p, r.Holds p ∧ ∃ h : m.placeAt p < m.tiles.size, m.tiles[m.placeAt p] ∈ m.solid := by
  simp only [blocks, hin, Bool.not_true, Bool.false_or, Bool.and_eq_true, decide_eq_true_eq]
  constructor
  · rintro ⟨⟨hwidth, hheight⟩, htouches⟩
    obtain ⟨hedge, -⟩ := sound_of_contains hin hwidth
    obtain ⟨p, hp, hsolid⟩ := (touchesSolid_iff_exists hedge hwidth hheight).1 htouches
    exact ⟨p, hp, (isSolid_iff_stored.1 hsolid).2⟩
  · rintro ⟨p, hp, hsolid⟩
    obtain ⟨hwidth, hheight⟩ := Rect.size_pos_of_holds hp
    obtain ⟨hedge, -⟩ := sound_of_contains hin hwidth
    obtain ⟨hcol, hrow⟩ := inGrid_of_holds hin hp
    refine ⟨⟨hwidth, hheight⟩, (touchesSolid_iff_exists hedge hwidth hheight).2 ⟨p, hp, ?_⟩⟩
    exact isSolid_iff_stored.2 ⟨⟨by omega, by omega⟩, hsolid⟩

/-- **Looking tiles up goes wrong on no map**: whatever tiles a map stores, of whatever size, and
wherever a rectangle lies, the checked lookup divides by positive edges only, makes no negative
coordinate an index and reads no tile that is not stored. Its answer is that of `blocks`, unless a
number is too large; and no number is if the extent of the map and the edges of the rectangle are
coordinates. A rectangle off the map is blocked, and one on the map exactly if one of its points
lies on a stored tile that is solid. -/
theorem lookup_safe (m : TileMap) (r : Rect) :
    (m.checkedBlocks r = .ok (m.blocks r) ∨ ∃ n, m.checkedBlocks r = .error (.overflow n)) ∧
      (m.InCoordinates r → m.checkedBlocks r = .ok (m.blocks r)) ∧
      (m.bounds.contains r = false → m.blocks r = true) ∧
      (m.bounds.contains r = true →
        (m.blocks r = true ↔
          ∃ p, r.Holds p ∧ ∃ h : m.placeAt p < m.tiles.size, m.tiles[m.placeAt p] ∈ m.solid)) := by
  refine ⟨?_, fun hm => ?_, fun hout => by simp [blocks, hout], blocks_iff_stored⟩
  · have hgives : Gives (fun e => ∃ n, e = .overflow n) (m.checkedBlocks r) (m.blocks r) :=
      gives_blocks (.inr fun n => ⟨n, rfl⟩)
    obtain h | ⟨_, ⟨n, rfl⟩, h⟩ := hgives
    · exact .inl h
    · exact .inr ⟨n, h⟩
  · have hgives : Gives (fun _ => False) (m.checkedBlocks r) (m.blocks r) := gives_blocks (.inl hm)
    obtain h | ⟨_, hnone, -⟩ := hgives
    · exact h
    · exact hnone.elim

/-- Three columns and two rows with four tiles, so that the last two cells have none. -/
def tornMap : TileMap := ⟨3, 2, 16, #[0, 3, 0, 3], TileSet.ofList [3, 9]⟩

/-- The same with tiles of no size. -/
def flatMap : TileMap := { tornMap with tileSize := 0 }

/-- A rectangle over the two cells without a tile is free, and one that reaches to the cell beside
them is not. With tiles of no size a point fits on the map, and is free. -/
theorem lookup_safe_torn :
    Json.decode? ofJson? (Json.Source.ofString "[3,2,16,[0,3,0,3],[9,3]]") = some tornMap ∧
      tornMap.InCoordinates ⟨16, 16, 32, 16⟩ ∧
      tornMap.checkedBlocks ⟨16, 16, 32, 16⟩ = .ok false ∧
      tornMap.bounds.contains ⟨15, 16, 32, 16⟩ = true ∧
      tornMap.blocks ⟨15, 16, 32, 16⟩ = true ∧
      flatMap.InCoordinates ⟨0, 0, 0, 0⟩ ∧ flatMap.checkedBlocks ⟨0, 0, 0, 0⟩ = .ok false ∧
      flatMap.bounds.contains ⟨0, 0, 1, 1⟩ = false ∧ flatMap.blocks ⟨0, 0, 1, 1⟩ = true := by
  have hdecode : Json.decode? ofJson? (Json.Source.ofString "[3,2,16,[0,3,0,3],[9,3]]") =
      some tornMap := by decide +kernel
  have htorn : tornMap.InCoordinates ⟨16, 16, 32, 16⟩ :=
    ⟨by decide, by decide, by decide, by decide⟩
  have hflat : flatMap.InCoordinates ⟨0, 0, 0, 0⟩ := ⟨by decide, by decide, by decide, by decide⟩
  have hin : tornMap.bounds.contains ⟨15, 16, 32, 16⟩ = true := by decide +kernel
  have hout : flatMap.bounds.contains ⟨0, 0, 1, 1⟩ = false := by decide +kernel
  have hempty : tornMap.blocks ⟨16, 16, 32, 16⟩ = false ∧ flatMap.blocks ⟨0, 0, 0, 0⟩ = false := by
    decide +kernel
  obtain ⟨-, hfree, -⟩ := lookup_safe tornMap ⟨16, 16, 32, 16⟩
  obtain ⟨-, -, -, hsolid⟩ := lookup_safe tornMap ⟨15, 16, 32, 16⟩
  obtain ⟨-, hpoint, -⟩ := lookup_safe flatMap ⟨0, 0, 0, 0⟩
  obtain ⟨-, -, hoff, -⟩ := lookup_safe flatMap ⟨0, 0, 1, 1⟩
  have hpond : tornMap.blocks ⟨15, 16, 32, 16⟩ = true :=
    (hsolid hin).2 ⟨⟨15, 16⟩, by decide, by decide, by decide⟩
  rw [hempty.1] at hfree
  rw [hempty.2] at hpoint
  exact ⟨hdecode, htorn, hfree htorn, hin, hpond, hflat, hpoint hflat, hout, hoff hout⟩

end TileMap

end GridScript
