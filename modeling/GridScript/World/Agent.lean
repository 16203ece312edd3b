import GridScript.Grid.Direction
import GridScript.Grid.TileMap

/-!
The agent: where it stands, where it looks, and its walk cycle.
-/

namespace GridScript

structure Agent where
  position : Position
  facing : Direction
  /-- The frame of the walk, from one to four. -/
  frame : UInt8
  /-- The part of the agent that runs into things, seen from its position. -/
  solidArea : Rect
deriving DecidableEq, Repr

namespace Agent

def lastFrame : UInt8 := 4

/-- An agent that looks down; its solid area is half a tile wide and high and lies in the lower
middle of its tile. -/
def new (position : Position) (tileSize : UInt32) : Agent :=
  let tile : Int := pixels tileSize
  ⟨position, .down, 1, ⟨tile / 8, tile / 4, tile / 2, tile / 2⟩⟩

def solidAt (a : Agent) (p : Position) : Rect := a.solidArea.translated p.x p.y

def stepFrame (a : Agent) : Agent :=
  { a with frame := if lastFrame ≤ a.frame then 1 else a.frame + 1 }

end Agent

end GridScript
