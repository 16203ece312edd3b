import GridScript.Grid.TileMap
import Mathlib.Tactic.Common

/-!
The tiles of a map, cell by cell.

A map may have a tile for each of its cells, row by row. Then the place of a cell lies within the
tiles, no other cell has the same place, and to replace one tile is to replace that one only.
-/

namespace GridScript.TileMap

/-- There is a tile for each cell of the grid, and no other. -/
def Filled (m : TileMap) : Prop := m.tiles.size = m.columns * m.rows

/-! ### Places -/

lemma place_lt {columns rows col row : Nat} (hcol : col < columns) (hrow : row < rows) :
    row * columns + col < columns * rows := by
  calc row * columns + col < row * columns + columns := by omega
    _ = (row + 1) * columns := (Nat.succ_mul row columns).symm
    _ ≤ rows * columns := Nat.mul_le_mul_right columns hrow
    _ = columns * rows := Nat.mul_comm rows columns

variable {m : TileMap}

namespace Filled

lemma place_lt_size (h : m.Filled) {col row : Nat} (hcol : col < m.columns) (hrow : row < m.rows) :
    row * m.columns + col < m.tiles.size := by
  rw [h]
  exact place_lt hcol hrow

lemma isSome_tile? (h : m.Filled) (col row : Nat) :
    (m.tile? col row).isSome = true ↔ col < m.columns ∧ row < m.rows := by
  unfold tile?
  split
  · rename_i hcell
    simpa [hcell] using h.place_lt_size hcell.1 hcell.2
  · rename_i hcell
    simpa using hcell

lemma setTile (h : m.Filled) (col row : Nat) (id : UInt8) : (m.setTile col row id).Filled := by
  rw [Filled, size_tiles_setTile, columns_setTile, rows_setTile]
  exact h

end Filled

/-- An empty map has a tile for each cell if their number has 64 bits. -/
lemma filled_ofSize {columns rows : Nat} (h : columns * rows < UInt64.size) (tileSize : UInt32) :
    (ofSize columns rows tileSize).Filled :=
  Array.size_replicate.trans (Nat.mod_eq_of_lt h)

end GridScript.TileMap
