import GridScript.Grid.Encoding
import GridScript.World.Basic

/-!
The world and its parts as JSON.
-/

namespace GridScript

namespace MapObject

def toJson (o : MapObject) : Json :=
  Json.record [("name", Json.ofString o.name), ("area", o.area.toJson), ("solid", Json.bool o.solid)]

def ofJson? (room : Nat) (j : Json) : Option MapObject := do
  let [name, area, solid] ← j.record? room ["name", "area", "solid"] | none
  pure ⟨← name.asString?, ← Rect.ofJson? (room - 1) area, ← solid.asBool?⟩

end MapObject

namespace Npc

def toJson (n : Npc) : Json :=
  Json.record
    [("name", Json.ofString n.name), ("position", n.position.toJson),
      ("solid_area", n.solidArea.toJson)]

def ofJson? (room : Nat) (j : Json) : Option Npc := do
  let [name, position, solidArea] ← j.record? room ["name", "position", "solid_area"] | none
  pure ⟨← name.asString?, ← Position.ofJson? (room - 1) position, ← Rect.ofJson? (room - 1) solidArea⟩

end Npc

namespace Agent

def toJson (a : Agent) : Json :=
  Json.record
    [("position", a.position.toJson), ("facing", a.facing.toJson),
      ("sprite_frame", Json.ofNat a.frame.toNat), ("solid_area", a.solidArea.toJson)]

def ofJson? (room : Nat) (j : Json) : Option Agent := do
  let [position, facing, frame, solidArea] ←
    j.record? room ["position", "facing", "sprite_frame", "solid_area"] | none
  pure
    ⟨← Position.ofJson? (room - 1) position, ← Direction.ofJson? .direct (room - 1) facing,
      ← frame.asWord8?, ← Rect.ofJson? (room - 1) solidArea⟩

end Agent

namespace Health

def toJson (h : Health) : Json :=
  Json.record
    [("max", Json.ofNat h.max.toNat), ("current", Json.ofNat h.current.toNat),
      ("dead", Json.bool h.isDead)]

def ofJson? (room : Nat) (j : Json) : Option Health := do
  let [max, current, dead] ← j.record? room ["max", "current", "dead"] | none
  pure ⟨← max.asWord32?, ← current.asWord32?, ← dead.asBool?⟩

end Health

namespace MessageBar

def shownToJson (text : String) : Json := Json.record [("text", Json.ofString text)]

def shownOfJson? (room : Nat) (j : Json) : Option String := do
  let [text] ← j.record? room ["text"] | none
  text.asString?

def toJson (b : MessageBar) : Json :=
  Json.record
    [("current", Json.ofOption Json.ofString b.current), ("history", Json.ofList shownToJson b.history)]

def ofJson? (room : Nat) (j : Json) : Option MessageBar := do
  let [current, history] ← j.record? room ["current", "history"] | none
  pure <| ofHistory (← current.asOption? Json.asString?) (← history.asList? (room - 1) shownOfJson?)

end MessageBar

namespace World

def toJson (w : World) : Json :=
  Json.record
    [("map", w.map.toJson), ("objects", Json.ofList MapObject.toJson w.objects),
      ("npcs", Json.ofList Npc.toJson w.npcs), ("agent", w.agent.toJson),
      ("health", w.health.toJson), ("messages", w.messages.toJson)]

def ofJson? (room : Nat) (j : Json) : Option World := do
  let [map, objects, npcs, agent, health, messages] ←
    j.record? room ["map", "objects", "npcs", "agent", "health", "messages"] | none
  let room := room - 1
  pure
    { map := ← TileMap.ofJson? room map
      objects := ← objects.asList? room MapObject.ofJson?
      npcs := ← npcs.asList? room Npc.ofJson?
      agent := ← Agent.ofJson? room agent
      health := ← Health.ofJson? room health
      messages := ← MessageBar.ofJson? room messages }

end World

end GridScript
