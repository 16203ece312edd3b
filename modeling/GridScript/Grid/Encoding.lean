import GridScript.Grid.Direction
import GridScript.Grid.TileMap
import GridScript.Json.Shape

/-!
Directions, points, rectangles and maps as JSON.
-/

namespace GridScript

namespace Direction

def toJson (d : Direction) : Json := Json.ofString d.name

def ofJson? (mode : Json.Mode) (room : Nat) (j : Json) : Option Direction :=
  j.name? mode room (all.map fun d => (d.name, d))

end Direction

namespace Position

def toJson (p : Position) : Json := Json.record [("x", Json.ofInt p.x), ("y", Json.ofInt p.y)]

def ofJson? (room : Nat) (j : Json) : Option Position := do
  let [x, y] ← j.record? room ["x", "y"] | none
  pure ⟨← x.asInt32?, ← y.asInt32?⟩

end Position

namespace Rect

def toJson (r : Rect) : Json :=
  Json.record
    [("x", Json.ofInt r.x), ("y", Json.ofInt r.y), ("width", Json.ofInt r.width),
      ("height", Json.ofInt r.height)]

def ofJson? (room : Nat) (j : Json) : Option Rect := do
  let [x, y, width, height] ← j.record? room ["x", "y", "width", "height"] | none
  pure ⟨← x.asInt32?, ← y.asInt32?, ← width.asInt32?, ← height.asInt32?⟩

end Rect

namespace TileMap

def tileToJson (id : UInt8) : Json := Json.ofNat id.toNat

def toJson (m : TileMap) : Json :=
  Json.record
    [("columns", Json.ofNat m.columns), ("rows", Json.ofNat m.rows),
      ("tile_size", Json.ofNat m.tileSize.toNat), ("tiles", Json.ofList tileToJson m.tiles.toList),
      ("solid", Json.ofList tileToJson m.solid.ids)]

def tilesOfJson? (room : Nat) (j : Json) : Option (List UInt8) :=
  j.asList? room fun _ => Json.asWord8?

/-- A map as it is written, even if its tiles do not fill it. -/
def ofJson? (room : Nat) (j : Json) : Option TileMap := do
  let [columns, rows, tileSize, tiles, solid] ←
    j.record? room ["columns", "rows", "tile_size", "tiles", "solid"] | none
  pure
    { columns := ← columns.asNat64?
      rows := ← rows.asNat64?
      tileSize := ← tileSize.asWord32?
      tiles := (← tilesOfJson? (room - 1) tiles).toArray
      solid := TileSet.ofList (← tilesOfJson? (room - 1) solid) }

end TileMap

end GridScript
