import GridScript.Grid.Rect
import GridScript.Script.Bindings

/-!
What the motion of an agent and the execution of a script ask of a world.
-/

namespace GridScript

class Scene (σ : Type) where
  position : σ → Position
  /-- Puts the agent somewhere. -/
  place : σ → Position → σ
  /-- Turns the agent. -/
  face : σ → Direction → σ
  /-- Shows the next frame of the walk. -/
  stepFrame : σ → σ
  /-- The rectangle that the agent takes up when it stands somewhere. -/
  solidAt : σ → Position → Rect
  blocked : σ → Rect → Bool
  /-- Shows a message. -/
  announce : σ → String → σ
  reading : σ → Builtin → Int
  /-- Takes health from the agent. -/
  hurt : σ → UInt32 → σ

namespace Scene

variable {σ : Type} [Scene σ]

/-- The agent would run into something at a position. -/
def blockedAt (w : σ) (p : Position) : Bool := blocked w (solidAt w p)

end Scene

end GridScript
