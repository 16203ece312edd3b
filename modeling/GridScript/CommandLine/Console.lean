import GridScript.CommandLine.Invocation
import GridScript.Session.Basic

/-!
A session without a window: a line is submitted, and then frames pass until nothing is left to do or
the frames of the line are used up.

What a step prints is a list of lines. The warnings of a log that is written to the same output are
not among them.
-/

namespace GridScript.CommandLine

structure Console where
  session : Session
  clock : Millis
  /-- The time between two frames. -/
  frame : Millis
  maxTicks : Nat

/-- The rows of the field that scripts run on unless a map is given. -/
def demoRows : List String :=
  ["0 0 0 0 0 0 0 0 0 0 0 3",
    "0 0 0 0 0 0 0 0 0 0 0 3",
    "0 0 1 1 0 0 0 0 2 0 0 3",
    "0 0 1 1 0 0 0 0 0 0 0 3",
    "0 0 0 0 0 3 3 0 0 0 0 3",
    "0 0 0 0 0 3 3 0 0 0 0 3",
    "0 0 2 0 0 0 0 0 0 1 0 3",
    "0 0 0 0 0 0 0 0 0 0 0 3",
    "0 0 0 0 0 0 0 0 0 0 0 3",
    "0 0 0 0 0 0 0 0 0 0 0 3"]

/-- The text of some lines, each with a line feed at its end. -/
def unlines (lines : List String) : String := String.join (lines.map (· ++ "\n"))

def demoMap : String := unlines demoRows

namespace Console

/-- Opens a session on a map. -/
def new (c : Config) (mapText : List Char) (o : WorldOptions) : Except SessionError Console := do
  let session ← Session.ofMapText c mapText o.col o.row
  pure ⟨session, 0, (max (1000 / o.fps) 1).toUInt64, o.maxTicks⟩

/-- One frame. -/
def step (c : Console) : Console :=
  { c with session := (c.session.tick c.clock).2, clock := c.clock.after c.frame }

/-- Passes frames while the session is busy, but no more than so many. -/
def drain : Nat → Console → Console
  | 0, c => c
  | n + 1, c => if c.session.isBusy then drain n c.step else c

/-- Submits a line and passes its frames; what is left of it then is dropped. -/
def submit (c : Console) (line : String) : Report × List String × Console :=
  let (report, session) := c.session.submit line
  let done := drain c.maxTicks { c with session := session }
  let errors := report.errors.map fun e => "  error: " ++ e.message
  if done.session.isBusy then
    let left := Text.natText done.session.scheduler.queueLength
    let notice :=
      "  stopped after " ++ Text.natText c.maxTicks ++ " frames with " ++ left ++ " actions queued"
    (report, errors ++ [notice], { done with session := done.session.clear })
  else (report, errors, done)

def isGameOver (c : Console) : Bool := c.session.world.isGameOver

/-- The state of the agent, the message, and whether the game is over. -/
def status (c : Console) : List String :=
  let w := c.session.world
  let health :=
    Text.natText w.health.current.toNat ++ "/" ++ Text.natText w.health.max.toNat
  let agent :=
    "Position: " ++ w.agent.position.text ++ "  facing " ++ w.agent.facing.name ++ "  health " ++
      health
  let message :=
    match w.messages.current with
    | some text => ["Message: " ++ text]
    | none => []
  agent :: message ++ if w.isGameOver then ["GAME OVER"] else []

/-- Submits lines one after the other until the game is over, and repeats each before its output.
The flag says whether all went well. -/
def runLines (c : Console) : List (List Char) → Bool × List String × Console
  | [] => (true, [], c)
  | line :: lines =>
    let text := String.ofList line
    let (report, output, c) := c.submit text
    let output := ("> " ++ text) :: output
    if c.isGameOver then (report.success, output, c)
    else
      let (ok, later, c) := runLines c lines
      (report.success && ok, output ++ later, c)

end Console

/-- The lines of a script that are submitted: those that are not blank. -/
def scriptLines (source : List Char) : List (List Char) :=
  (Text.lines source).filter fun line => !(Text.trim line).isEmpty

/-- The line ends the input. -/
def isQuit (line : List Char) : Bool :=
  let word := String.ofList (Text.trim line)
  word == "quit" || word == "exit"

end GridScript.CommandLine
