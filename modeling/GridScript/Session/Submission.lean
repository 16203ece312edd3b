import GridScript.Motion.Scheduler
import GridScript.Script.Reader

/-!
Submitting a line: its statements are read, and the actions they stand for are staged.

Loops are unrolled and conditions decided at once, against the world as it is. Each statement that
can be read is executed, also after a faulty one; a line with a fault costs health once.
-/

namespace GridScript

/-- The settings that the execution of a script depends on. -/
structure Rules where
  defaultWait : Millis
  damagePerError : UInt32
  maxRepeat : UInt32
deriving DecidableEq, Repr

def Config.rules (c : Config) : Rules := ⟨c.defaultWait, c.damagePerError, c.maxRepeat⟩

/-- What became of a submitted line. -/
structure Report where
  /-- Every statement could be read. -/
  success : Bool
  errors : List ParseError
  /-- The number of single steps that were staged. -/
  staged : Nat
  /-- The agent was hurt. -/
  damaged : Bool
deriving DecidableEq, Repr

/-- The action that a command stages, unless it clears the scheduler. -/
def Command.action? (defaultWait : Millis) : Command → Option Action
  | .move d => some (.step d)
  | .walk d count => some (.walk d count)
  | .turn d => some (.turn d)
  | .wait ms => some (.wait (ms.getD defaultWait))
  | .print text => some (.print text)
  | .clear => none

/-- The state of an execution. The actions of the line are put into the queue all at once when the
line is done. -/
structure Execution where
  bindings : Bindings
  scheduler : Scheduler
  /-- The actions that are still to be put into the queue, last first. -/
  late : List Action
  /-- The number of single steps that were staged. -/
  staged : Nat

namespace Execution

def start (s : Scheduler) : Execution := ⟨Bindings.empty, s, [], 0⟩

/-- The scheduler with the actions of the line in its queue. -/
def settled (e : Execution) : Scheduler :=
  { e.scheduler with queue := e.scheduler.queue ++ e.late.reverse }

def stage (e : Execution) (a : Action) : Execution :=
  if a.stepCount = 0 then e else { e with late := a :: e.late, staged := e.staged + a.stepCount }

def clear (e : Execution) : Execution := { e with scheduler := e.scheduler.clear, late := [] }

def command (defaultWait : Millis) (e : Execution) (c : Command) : Execution :=
  match c.action? defaultWait with
  | some a => e.stage a
  | none => e.clear

/-- Executes a statement in a world with some readings. -/
def statement (defaultWait : Millis) (read : Builtin → Int) : Statement → Execution → Execution
  | .command c, e => e.command defaultWait c
  | .loop name count body, e =>
    count.toNat.fold
      (fun i _ e =>
        let previous := e.bindings.get? name
        let e := statement defaultWait read body { e with bindings := e.bindings.bind name i }
        { e with bindings := e.bindings.restore name previous })
      e
  | .guarded condition body, e =>
    if e.bindings.holds read condition then statement defaultWait read body e else e

@[simp] theorem settled_start (s : Scheduler) : (start s).settled = s := by
  simp [settled, start]

@[simp] theorem settled_stage (e : Execution) (a : Action) :
    (e.stage a).settled = e.settled.stage a := by
  unfold stage Scheduler.stage
  split
  · rfl
  · simp [settled]

@[simp] theorem settled_clear (e : Execution) : e.clear.settled = e.settled.clear := rfl

end Execution

/-- A scheduler and its world after a submission, and the report. -/
structure Submitted (σ : Type) where
  report : Report
  scheduler : Scheduler
  world : σ

/-- The errors among some readings, in order. -/
def Script.errors (parts : List (Script.Reading α)) : List ParseError :=
  parts.filterMap fun
    | .ok _ => none
    | .error e => some e

/-- The statements among some readings, in order. -/
def Script.statements (parts : List (Script.Reading α)) : List α :=
  parts.filterMap fun
    | .ok s => some s
    | .error _ => none

variable {σ : Type} [Scene σ]

/-- Submits a line to a scheduler in a world. -/
def Rules.submit (rules : Rules) (line : String) (s : Scheduler) (w : σ) : Submitted σ :=
  let parts := Script.readLine rules.maxRepeat line.toList
  let done := (Script.statements parts).foldl
    (fun e statement => e.statement rules.defaultWait (Scene.reading w) statement)
    (Execution.start s)
  let errors := Script.errors parts
  let success := errors.isEmpty
  { report := ⟨success, errors, done.staged, !success⟩
    scheduler := done.settled
    world := if success then w else Scene.hurt w rules.damagePerError }

end GridScript
