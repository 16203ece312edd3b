import GridScript.Grid.MapText
import GridScript.Session.Submission
import GridScript.World.Basic

/-!
A session: settings, the rules of its scripts, a scheduler and a world.

The settings are checked when the session is opened. The action delay and the move speed may change
later, and then both the settings and the scheduler follow.
-/

namespace GridScript

inductive SessionError where
  | config (e : ConfigError)
  | map (e : MapError)
deriving DecidableEq, Repr

def SessionError.message : SessionError → String
  | config e => "Configuration error: " ++ e.message
  | map e => "Map error: " ++ e.message

structure Session where
  config : Config
  rules : Rules
  scheduler : Scheduler
  world : World

namespace Session

/-- Opens a session in a world, if the settings are valid. -/
def new (c : Config) (w : World) : Except ConfigError Session := do
  c.validate
  pure ⟨c, c.rules, Scheduler.new c, w⟩

/-- Opens a session on a map given as text, with the agent on a cell. -/
def ofMapText (c : Config) (text : List Char) (col row : Nat) : Except SessionError Session := do
  let map ← (TileMap.parse text c.tileSize).mapError .map
  (new c (World.new map (map.cellOrigin col row) c)).mapError .config

/-- Submits a line. -/
def submit (s : Session) (line : String) : Report × Session :=
  let r := s.rules.submit line s.scheduler s.world
  (r.report, { s with scheduler := r.scheduler, world := r.world })

/-- Advances by one frame. -/
def tick (s : Session) (now : Millis) : Outcome × Session :=
  let r := s.scheduler.tick now s.world
  (r.outcome, { s with scheduler := r.scheduler, world := r.world })

def isBusy (s : Session) : Bool := s.scheduler.isBusy

def clear (s : Session) : Session := { s with scheduler := s.scheduler.clear }

def setActionDelay (s : Session) (ms : Millis) : Session :=
  { s with
    config := { s.config with actionDelay := ms }
    scheduler := s.scheduler.setActionDelay ms }

/-- Sets the move speed; the settings take the speed that the scheduler really has. -/
def setMoveSpeed (s : Session) (speed : UInt32) : Session :=
  let scheduler := s.scheduler.setMoveSpeed speed
  { s with config := { s.config with moveSpeed := scheduler.moveSpeed }, scheduler := scheduler }

/-- Sets the action delay that belongs to a command speed. -/
def setSpeedLevel (s : Session) (level : UInt8) : Session := s.setActionDelay (speedDelay level)

def mapWorld (s : Session) (f : World → World) : Session := { s with world := f s.world }

end Session

end GridScript
