import GridScript.Proofs.Motion.Run
import GridScript.Proofs.World.Obstacles
import GridScript.World.Dated
import Mathlib.Logic.Function.Iterate

/-!
Time decides when something happens to the agent, and never what.

`Play.untimed` forgets the gate, the stamps of the clock, the walk frame and the instants of the
messages. A tick that is idle or gated changes nothing else, and any other tick does what comes next
in the untimed play. So the deeds of a run are a beginning of one list, which no timing enters. The
instants of the messages are what the wall clock reads, one reading for each message that is printed.
-/

namespace GridScript

namespace Play

end Play

/-- The world without what has to do with time. -/
def Dated.untimed (d : Dated World) : Dated World := ⟨d.scene.setFrame 0, [], fun _ => 0⟩

/-- The scheduler without what has to do with time; its gate is always open. -/
def Scheduler.untimed (s : Scheduler) : Scheduler :=
  { s with gate := ⟨0, none⟩, executing := false, frameDelay := 0, lastFrame := none }

/-! ### A tick -/

namespace Scheduler

variable {s : Scheduler} {now : Millis} {w : Dated World} {r : Ticked (Dated World)}

end Scheduler

/-! ### Runs -/

namespace Play

/-- The play without what has to do with time. -/
def untimed (p : Play (Dated World)) : Play (Dated World) :=
  ⟨p.scheduler.untimed, p.world.untimed⟩

/-- An untimed play after its next tick. -/
def next (p : Play (Dated World)) : Play (Dated World) := (p.step (.tick 0)).untimed

end Play

end GridScript
