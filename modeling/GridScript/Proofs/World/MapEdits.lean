import GridScript.Proofs.Grid.MapText
import GridScript.Proofs.World.Collision
import GridScript.Proofs.World.Encoding

/-!
Maps that are edited.

A tile is replaced, other ids become solid, or the map is written and read again. All that keeps the
grid and fills it, so each cell keeps its tile until that very cell is set. Only a grid with more
cells than 64 bits can count is not filled to begin with: an empty map of that size has fewer tiles.
-/

namespace GridScript

/-- What may be done to a map. Read again, it is the map that its text stands for. -/
inductive MapEdit where
  | setTile (col row : Nat) (id : UInt8)
  | setSolid (ids : List UInt8)
  | reload (indented : Bool)

namespace MapEdit

/-- The id that an edit gives to a cell. -/
def given? (col row : Nat) : MapEdit → Option UInt8
  | setTile col' row' id => if col' = col ∧ row' = row then some id else none
  | _ => none

/-- The id that some edits gave to a cell last. -/
def lastGiven? (es : List MapEdit) (col row : Nat) : Option UInt8 :=
  (es.filterMap (given? col row)).getLast?

lemma lastGiven?_append (es es' : List MapEdit) (col row : Nat) :
    lastGiven? (es ++ es') col row = (lastGiven? es' col row).or (lastGiven? es col row) := by
  rw [lastGiven?, List.filterMap_append, List.getLast?_append]
  rfl

end MapEdit

namespace TileMap

/-- The text of a map, on one line or indented. -/
def fileText (m : TileMap) (indented : Bool) : String :=
  if indented then m.toJson.prettyText else m.toJson.compactText

variable {m : TileMap}

/-- If the number of its cells has 64 bits, a map has a tile for each of them. -/
lemma Made.filled (h : m.Made) (hcells : m.columns * m.rows < UInt64.size) : m.Filled := by
  induction h with
  | ofSize columns rows tileSize => exact filled_ofSize hcells tileSize
  | parse h => exact (shows_of_parse h).filled
  | withSolid _ ids ih => exact ih hcells
  | setTile _ col row id ih =>
    rw [columns_setTile, rows_setTile] at hcells
    exact (ih hcells).setTile col row id

/-! ### Edits -/

/-- One map comes of another by some edits: it has the same grid, all of it filled, and the tile of a
cell is the one it was given last. -/
structure Follows (m m' : TileMap) (es : List MapEdit) : Prop where
  columns : m'.columns = m.columns
  rows : m'.rows = m.rows
  tileSize : m'.tileSize = m.tileSize
  filled : m'.Filled
  tile : ∀ col row, col < m.columns → row < m.rows →
    m'.tile? col row = (MapEdit.lastGiven? es col row).or (m.tile? col row)

lemma Follows.inRange {m' : TileMap} {es : List MapEdit} (h : m.Follows m' es) (hm : m.InRange) :
    m'.InRange where
  columns := h.columns ▸ hm.columns
  rows := h.rows ▸ hm.rows

lemma Follows.trans {m' m'' : TileMap} {es es' : List MapEdit} (h : m.Follows m' es)
    (h' : m'.Follows m'' es') : m.Follows m'' (es ++ es') where
  columns := h'.columns.trans h.columns
  rows := h'.rows.trans h.rows
  tileSize := h'.tileSize.trans h.tileSize
  filled := h'.filled
  tile := by
    intro col row hcol hrow
    rw [h'.tile col row (h.columns ▸ hcol) (h.rows ▸ hrow), h.tile col row hcol hrow,
      MapEdit.lastGiven?_append, Option.or_assoc]

end TileMap

end GridScript
