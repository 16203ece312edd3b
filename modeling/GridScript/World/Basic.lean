import GridScript.Config.Basic
import GridScript.Motion.Scene
import GridScript.World.Agent
import GridScript.World.Health
import GridScript.World.MessageBar

/-!
The world of the game: a map, the things and persons on it, the agent, its health, and the message
bar.

A rectangle is blocked by the map, by a solid thing or by a person. Things and persons may be
overlapped by a few pixels on either axis.
-/

namespace GridScript

structure MapObject where
  name : String
  area : Rect
  solid : Bool
deriving DecidableEq, Repr

structure Npc where
  name : String
  position : Position
  /-- The solid part, seen from the position. -/
  solidArea : Rect
deriving DecidableEq, Repr

def Npc.area (n : Npc) : Rect := n.solidArea.translated n.position.x n.position.y

structure World where
  map : TileMap
  objects : List MapObject
  npcs : List Npc
  agent : Agent
  health : Health
  messages : MessageBar
deriving DecidableEq

namespace World

def new (map : TileMap) (start : Position) (c : Config) : World where
  map := map
  objects := []
  npcs := []
  agent := Agent.new start map.tileSize
  health := Health.full c.maxHealth
  messages := MessageBar.empty

/-- The pixels by which things and persons may be overlapped. -/
def tolerance : Int := 5

/-- Two rectangles overlap by more than the tolerance on both axes. -/
def collides (a b : Rect) : Bool :=
  (a.intersection b).any fun c => tolerance < c.width && tolerance < c.height

def blocked (w : World) (r : Rect) : Bool :=
  w.map.blocks r || w.objects.any (fun o => o.solid && collides r o.area) ||
    w.npcs.any fun n => collides r n.area

def reading (w : World) : Builtin → Int
  | .x => w.agent.position.x
  | .y => w.agent.position.y
  | .health => w.health.current.toNat

def isGameOver (w : World) : Bool := w.health.isDead

def place (w : World) (p : Position) : World := { w with agent := { w.agent with position := p } }

def face (w : World) (d : Direction) : World := { w with agent := { w.agent with facing := d } }

def stepFrame (w : World) : World := { w with agent := w.agent.stepFrame }

def announce (w : World) (text : String) : World := { w with messages := w.messages.announce text }

def hide (w : World) : World := { w with messages := w.messages.hide }

def hurt (w : World) (amount : UInt32) : World := { w with health := w.health.damage amount }

def resetHealth (w : World) : World := { w with health := w.health.reset }

def addObject (w : World) (o : MapObject) : World := { w with objects := w.objects ++ [o] }

def addNpc (w : World) (n : Npc) : World := { w with npcs := w.npcs ++ [n] }

def setSolidArea (w : World) (r : Rect) : World := { w with agent := { w.agent with solidArea := r } }

def setFrame (w : World) (frame : UInt8) : World := { w with agent := { w.agent with frame := frame } }

def setTile (w : World) (col row : Nat) (id : UInt8) : World :=
  { w with map := w.map.setTile col row id }

instance : Scene World where
  position w := w.agent.position
  place := place
  face := face
  stepFrame := stepFrame
  solidAt w := w.agent.solidAt
  blocked := blocked
  announce := announce
  reading := reading
  hurt := hurt

end World

end GridScript
