import GridScript.Proofs.Motion.Tick
import GridScript.World.Basic

/-!
What is in the way of the agent, and what a tick does to it: nothing.
-/

namespace GridScript

/-- The same things are in the way of the agent, and its solid area is the same. -/
structure World.SameObstacles (w w' : World) : Prop where
  map : w'.map = w.map
  objects : w'.objects = w.objects
  npcs : w'.npcs = w.npcs
  solidArea : w'.agent.solidArea = w.agent.solidArea

namespace World.SameObstacles

variable {w w' w'' : World}

lemma refl (w : World) : w.SameObstacles w := ⟨rfl, rfl, rfl, rfl⟩

lemma trans (h : w.SameObstacles w') (h' : w'.SameObstacles w'') : w.SameObstacles w'' :=
  ⟨h'.map.trans h.map, h'.objects.trans h.objects, h'.npcs.trans h.npcs,
    h'.solidArea.trans h.solidArea⟩

lemma blockedAt_eq (h : w.SameObstacles w') (p : Position) :
    Scene.blockedAt w' p = Scene.blockedAt w p := by
  show (w'.map.blocks (w'.agent.solidArea.translated p.x p.y) ||
    w'.objects.any (fun o => o.solid && collides (w'.agent.solidArea.translated p.x p.y) o.area) ||
    w'.npcs.any fun n => collides (w'.agent.solidArea.translated p.x p.y) n.area) = _
  rw [h.map, h.objects, h.npcs, h.solidArea]
  rfl

end World.SameObstacles

/-! ### Ticks -/

namespace Scheduler

lemma setFrame_moveTo (s : Scheduler) (p : Position) (now : Millis) (w : World) (frame : UInt8) :
    (s.moveTo p now w).setFrame frame = (w.place p).setFrame frame := by
  unfold moveTo
  split <;> rfl

lemma position_moveTo (s : Scheduler) (p : Position) (now : Millis) (w : World) :
    (s.moveTo p now w).agent.position = p := by
  unfold moveTo
  split <;> rfl

/-- A tick puts nothing in the way. -/
lemma sameObstacles_tick (s : Scheduler) (now : Millis) (w : World) :
    w.SameObstacles (s.tick now w).world := by
  have hstep := s.tick_spec now w
  generalize s.tick now w = r at hstep
  cases hstep with
  | go m hm far free =>
    unfold moveTo
    split <;> exact ⟨rfl, rfl, rfl, rfl⟩
  | arrive | block | idle | gated | drop | start | turn | wait | print => exact ⟨rfl, rfl, rfl, rfl⟩

/-- Only a move takes the agent away. -/
lemma position_of_not_moved {s : Scheduler} {now : Millis} {w : World}
    (hmoved : (s.tick now w).outcome ≠ .moved)
    (harrived : (s.tick now w).outcome ≠ .arrived) :
    (s.tick now w).world.agent.position = w.agent.position := by
  have hstep := s.tick_spec now w
  generalize s.tick now w = r at hstep hmoved harrived ⊢
  cases hstep with
  | arrive => exact absurd rfl harrived
  | go => exact absurd rfl hmoved
  | block | idle | gated | drop | start | turn | wait | print => rfl

end Scheduler

/-! ### An example -/

/-- Lengths of two pixels, one pixel a tick, and some delay. -/
def rowConfig : Config := { tileSize := 2, moveSpeed := 1, actionDelay := 3 }

/-- Three tiles in a row, with the agent on the first one. -/
def rowWorld : World := World.new (TileMap.ofSize 3 1 2) ⟨0, 0⟩ rowConfig

end GridScript
