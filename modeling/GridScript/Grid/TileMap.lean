import GridScript.Grid.Length
import GridScript.Grid.Rect
import GridScript.Grid.TileSet

/-!
Grids of tiles, and the rectangles they block.

A map keeps its tiles row by row. A rectangle is blocked when it leaves the map or touches a tile
whose id is solid. The vector of tiles may be too short for the grid: a cell without a stored tile is
not solid, and where no tile is stored none is looked for. The main statement is
`touchesSolid_iff`.
-/

namespace GridScript

/-- A count of cells as it enters a coordinate: only its low 32 bits do, read as a signed number. -/
def cellCoordinate (n : Nat) : Int := Int.bmod n UInt32.size

structure TileMap where
  columns : Nat
  rows : Nat
  tileSize : UInt32
  tiles : Array UInt8
  solid : TileSet
deriving DecidableEq

namespace TileMap

/-- The ids that are solid unless a map says otherwise: water. -/
def defaultSolid : TileSet := TileSet.ofList [3]

/-- A map of tiles with id 0; a tile is at least one pixel wide. The number of tiles has 64 bits: of a
number beyond them, only these are counted. -/
def ofSize (columns rows : Nat) (tileSize : UInt32) : TileMap where
  columns := columns
  rows := rows
  tileSize := atLeastOne tileSize
  tiles := Array.replicate (columns * rows % UInt64.size) 0
  solid := defaultSolid

def withSolid (m : TileMap) (ids : List UInt8) : TileMap := { m with solid := TileSet.ofList ids }

/-- The tile of a cell, if the cell is in the grid and its tile is stored. -/
def tile? (m : TileMap) (col row : Nat) : Option UInt8 :=
  if col < m.columns ∧ row < m.rows then m.tiles[row * m.columns + col]? else none

/-- Replaces the tile of a cell of the grid. -/
def setTile (m : TileMap) (col row : Nat) (id : UInt8) : TileMap :=
  if col < m.columns ∧ row < m.rows then
    { m with tiles := m.tiles.setIfInBounds (row * m.columns + col) id }
  else m

/-- The edge of a tile. -/
def edge (m : TileMap) : Int := pixels m.tileSize

/-- The upper left corner of a cell. -/
def cellOrigin (m : TileMap) (col row : Nat) : Position :=
  ⟨wrap (cellCoordinate col * m.edge), wrap (cellCoordinate row * m.edge)⟩

/-- The extent of the map. -/
def bounds (m : TileMap) : Rect :=
  ⟨0, 0, wrap (cellCoordinate m.columns * m.edge), wrap (cellCoordinate m.rows * m.edge)⟩

/-- The tile of a cell is stored and solid. -/
def isSolid (m : TileMap) (col row : Nat) : Bool := (m.tile? col row).any m.solid.contains

/-- The numbers from `first` to `last`, both included. -/
def span (first last : Int) : List Int :=
  (List.range (last - first + 1).toNat).map fun (i : Nat) => first + i

/-- The number of columns that stored tiles may lie in. -/
def storedColumns (m : TileMap) : Nat := min m.columns m.tiles.size

/-- The number of rows that stored tiles may lie in. -/
def storedRows (m : TileMap) : Nat := (m.tiles.size + m.columns - 1) / m.columns

/-- The columns with stored tiles that a rectangle with a width touches. -/
def touchedColumns (m : TileMap) (r : Rect) : List Int :=
  span (r.x / m.edge) (min ((r.right - 1) / m.edge) (m.storedColumns - 1))

/-- The rows with stored tiles that a rectangle with a height touches. -/
def touchedRows (m : TileMap) (r : Rect) : List Int :=
  span (r.y / m.edge) (min ((r.bottom - 1) / m.edge) (m.storedRows - 1))

/-- A rectangle with a width and a height touches a solid tile. -/
def touchesSolid (m : TileMap) (r : Rect) : Bool :=
  let columns := m.touchedColumns r
  (m.touchedRows r).any fun row => columns.any fun col => m.isSolid col.toNat row.toNat

/-- The rectangle leaves the map or touches a solid tile. -/
def blocks (m : TileMap) (r : Rect) : Bool :=
  !m.bounds.contains r || (0 < r.width && 0 < r.height && m.touchesSolid r)

theorem cellCoordinate_eq_wrap (n : Nat) : cellCoordinate n = wrap n := by
  unfold wrap
  rfl

/-- The product of a count of cells and a length wraps around once. -/
theorem wrap_cellCoordinate_mul (n : Nat) (i : Int) : wrap (cellCoordinate n * i) = wrap (n * i) :=
  wrap_bmod_mul n i

theorem mem_span {first last i : Int} : i ∈ span first last ↔ first ≤ i ∧ i ≤ last := by
  simp only [span, List.mem_map, List.mem_range]
  constructor
  · rintro ⟨n, hn, rfl⟩
    omega
  · intro h
    exact ⟨(i - first).toNat, by omega, by omega⟩

/-- A solid tile is a stored one. -/
theorem stored_of_isSolid {m : TileMap} {col row : Nat} (h : m.isSolid col row = true) :
    col < m.storedColumns ∧ row < m.storedRows := by
  obtain ⟨id, hid, -⟩ := (Option.any_eq_true _ _).1 h
  unfold tile? at hid
  split at hid
  · rename_i hcell
    obtain ⟨hindex, -⟩ := Array.getElem?_eq_some_iff.1 hid
    have hrow : row + 1 ≤ (m.tiles.size + m.columns - 1) / m.columns := by
      rw [Nat.le_div_iff_mul_le (by omega), Nat.add_mul, Nat.one_mul]
      omega
    exact ⟨Nat.lt_min.2 ⟨hcell.1, by omega⟩, hrow⟩
  · cases hid

/-- Leaving out the cells without a stored tile changes nothing. -/
theorem touchesSolid_iff {m : TileMap} {r : Rect} :
    m.touchesSolid r = true ↔
      ∃ col row : Int,
        (r.x / m.edge ≤ col ∧ col ≤ (r.right - 1) / m.edge) ∧
          (r.y / m.edge ≤ row ∧ row ≤ (r.bottom - 1) / m.edge) ∧
            m.isSolid col.toNat row.toNat = true := by
  simp only [touchesSolid, List.any_eq_true, touchedColumns, touchedRows, mem_span, Int.le_min]
  constructor
  · rintro ⟨row, ⟨hy, hy', -⟩, col, ⟨hx, hx', -⟩, hsolid⟩
    exact ⟨col, row, ⟨hx, hx'⟩, ⟨hy, hy'⟩, hsolid⟩
  · rintro ⟨col, row, ⟨hx, hx'⟩, ⟨hy, hy'⟩, hsolid⟩
    have hstored := stored_of_isSolid hsolid
    exact ⟨row, ⟨hy, hy', by omega⟩, col, ⟨hx, hx', by omega⟩, hsolid⟩

@[simp] theorem columns_setTile (m : TileMap) (col row : Nat) (id : UInt8) :
    (m.setTile col row id).columns = m.columns := by
  unfold setTile
  split <;> rfl

@[simp] theorem rows_setTile (m : TileMap) (col row : Nat) (id : UInt8) :
    (m.setTile col row id).rows = m.rows := by
  unfold setTile
  split <;> rfl

@[simp] theorem size_tiles_setTile (m : TileMap) (col row : Nat) (id : UInt8) :
    (m.setTile col row id).tiles.size = m.tiles.size := by
  unfold setTile
  split <;> simp

end TileMap

end GridScript
