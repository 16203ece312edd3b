import GridScript.Config.Basic
import GridScript.Grid.Length
import GridScript.Motion.Action
import GridScript.Motion.Scene

/-!
The scheduler: a queue of actions, a gate that spaces their release, and at most one move that is
under way.

`tick` advances by one frame. A move that is under way goes on; otherwise the gate decides whether
the next action is released. A walk is released one step at a time. The reading of the clock is
given to each tick.
-/

namespace GridScript

/-- A move by one tile that is under way. -/
structure Motion where
  origin : Position
  target : Position
deriving DecidableEq, Repr

/-- The least time between two releases, and the reading that it counts from. -/
structure Gate where
  delay : Millis
  last : Option Millis
deriving DecidableEq, Repr

def Gate.isOpen (g : Gate) (now : Millis) : Bool :=
  match g.last with
  | none => true
  | some last => last ≤ now && g.delay ≤ now - last

inductive Outcome where
  /-- Nothing is queued and nothing moves. -/
  | idle
  /-- The gate is closed. -/
  | gated
  /-- The move went on. -/
  | moved
  /-- The move ended on its target. -/
  | arrived
  /-- The move ran into something and is over. -/
  | blocked
  /-- A step was released and dropped because its target is blocked. -/
  | discarded (d : Direction)
  | executed (a : Action)
deriving DecidableEq, Repr

structure Scheduler where
  queue : List Action
  motion : Option Motion
  gate : Gate
  /-- A release has happened since the scheduler was last idle. -/
  executing : Bool
  moveSpeed : UInt32
  tileSize : UInt32
  frameDelay : Millis
  /-- The reading at the last change of the walk frame. -/
  lastFrame : Option Millis
deriving DecidableEq, Repr

/-- A scheduler and its world after a tick, and what the tick did. -/
structure Ticked (σ : Type) where
  outcome : Outcome
  scheduler : Scheduler
  world : σ

namespace Scheduler

/-- A scheduler for some settings; lengths of zero count as one pixel. -/
def new (c : Config) : Scheduler where
  queue := []
  motion := none
  gate := ⟨c.actionDelay, none⟩
  executing := false
  moveSpeed := atLeastOne c.moveSpeed
  tileSize := atLeastOne c.tileSize
  frameDelay := c.frameDelay
  lastFrame := none

/-- Puts an action at the end of the queue; a walk of no steps is dropped. -/
def stage (s : Scheduler) (a : Action) : Scheduler :=
  if a.stepCount = 0 then s else { s with queue := s.queue ++ [a] }

/-- Drops the queue and the move, and opens the gate. -/
def clear (s : Scheduler) : Scheduler :=
  { s with queue := [], motion := none, executing := false, gate := { s.gate with last := none } }

def setActionDelay (s : Scheduler) (ms : Millis) : Scheduler :=
  { s with gate := { s.gate with delay := ms } }

def setMoveSpeed (s : Scheduler) (speed : UInt32) : Scheduler :=
  { s with moveSpeed := atLeastOne speed }

/-- The single steps that wait in the queue. -/
def pending (s : Scheduler) : List Action := Action.unroll s.queue

/-- The number of single steps that wait in the queue. -/
def queueLength (s : Scheduler) : Nat := Action.totalSteps s.queue

def isBusy (s : Scheduler) : Bool := !s.queue.isEmpty || s.motion.isSome || s.executing

/-- The length of a move. -/
def stride (s : Scheduler) : Nat := pixels s.tileSize

/-- The pixels that a move covers in one tick. -/
def pace (s : Scheduler) : Nat := pixels s.moveSpeed

/-- The part of a way that a tick covers. -/
def advance (pace : Nat) (way : Int) : Int := way.sign * (min way.natAbs pace : Nat)

/-- It is time for the next walk frame. -/
def frameDue (s : Scheduler) (now : Millis) : Bool :=
  match s.lastFrame with
  | none => true
  | some last => s.frameDelay < Millis.since last now

/-- Staging changes nothing but the queue. -/
theorem stage_eq (s : Scheduler) (a : Action) :
    s.stage a = { s with queue := (s.stage a).queue } := by
  unfold stage
  split <;> rfl

/-! ### The queue as single steps -/

theorem pending_stage (s : Scheduler) (a : Action) : (s.stage a).pending = s.pending ++ a.steps := by
  unfold stage
  split
  · rename_i h
    simp [Action.steps, h]
  · simp [pending, Action.unroll]

@[simp] theorem pending_clear (s : Scheduler) : s.clear.pending = [] := rfl

@[simp] theorem pending_setActionDelay (s : Scheduler) (ms : Millis) :
    (s.setActionDelay ms).pending = s.pending := rfl

@[simp] theorem pending_setMoveSpeed (s : Scheduler) (speed : UInt32) :
    (s.setMoveSpeed speed).pending = s.pending := rfl

theorem queueLength_eq (s : Scheduler) : s.queueLength = s.pending.length :=
  Action.totalSteps_eq s.queue

/-! ### Frames -/

variable {σ : Type} [Scene σ]

/-- Takes a move one tick further. -/
def advanceMotion (s : Scheduler) (m : Motion) (now : Millis) (w : σ) : Ticked σ :=
  let p := Scene.position w
  let dx := wrap (m.target.x - p.x)
  let dy := wrap (m.target.y - p.y)
  if wrap (dx.natAbs + dy.natAbs) ≤ s.pace then
    ⟨.arrived, { s with motion := none }, Scene.place w m.target⟩
  else
    let ahead := p.offset (advance s.pace dx) (advance s.pace dy)
    if Scene.blockedAt w ahead then ⟨.blocked, { s with motion := none }, w⟩
    else
      let w := Scene.place w ahead
      if s.frameDue now then ⟨.moved, { s with lastFrame := some now }, Scene.stepFrame w⟩
      else ⟨.moved, s, w⟩

/-- Faces a direction and sets out for the next tile, unless that is blocked. -/
def startStep (s : Scheduler) (d : Direction) (w : σ) : Ticked σ :=
  let w := Scene.face w d
  let origin := Scene.position w
  let target := origin.offset (d.delta.1 * s.stride) (d.delta.2 * s.stride)
  if Scene.blockedAt w target then ⟨.discarded d, s, w⟩
  else ⟨.executed (.step d), { s with motion := some ⟨origin, target⟩ }, w⟩

/-- Carries out an action that has left the queue. -/
def release (s : Scheduler) (a : Action) (now : Millis) (w : σ) : Ticked σ :=
  match a with
  | .step d => s.startStep d w
  | .walk d count =>
    let s := if 1 < count then { s with queue := .walk d (count - 1) :: s.queue } else s
    s.startStep d w
  | .turn d => ⟨.executed a, s, Scene.face w d⟩
  | .wait ms => ⟨.executed a, { s with gate := { s.gate with last := some (now.after ms) } }, w⟩
  | .print text => ⟨.executed a, s, Scene.announce w text⟩

/-- Advances by one frame. -/
def tick (s : Scheduler) (now : Millis) (w : σ) : Ticked σ :=
  match s.motion with
  | some m => s.advanceMotion m now w
  | none =>
    match s.queue with
    | [] => ⟨.idle, { s with executing := false }, w⟩
    | a :: queue =>
      if s.gate.isOpen now then
        let s :=
          { s with queue := queue, executing := true, gate := { s.gate with last := some now } }
        s.release a now w
      else ⟨.gated, s, w⟩

end Scheduler

end GridScript
