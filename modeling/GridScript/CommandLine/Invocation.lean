import GridScript.CommandLine.Arguments
import GridScript.Config.Basic

/-!
What the program is asked to do.
-/

namespace GridScript.CommandLine

/-- The options of a run in a world. -/
structure WorldOptions where
  /-- The file of the map, if it is not the built-in one. -/
  map : Option String
  col : Nat
  row : Nat
  fps : Nat
  maxTicks : Nat

/-- The settings to be changed. -/
structure Changes where
  speedLevel : Option UInt8
  moveSpeed : Option UInt32
  defaultWait : Option Millis
  maxRepeat : Option UInt32

inductive Task where
  /-- Runs a script, line by line or as one line. -/
  | run (script : String) (whole : Bool) (options : WorldOptions)
  /-- Reads one line and shows its statements. -/
  | check (line : String)
  /-- Runs the lines of the input. -/
  | repl (options : WorldOptions)
  /-- Shows or changes the settings. -/
  | settings (changes : Changes)

structure Invocation where
  /-- The directory of the settings file. -/
  root : String
  task : Task

namespace Invocation

def defaultRoot : String := ".codequest"

def worldGrammar : List (String × Bool) :=
  [("map", true), ("col", true), ("row", true), ("fps", true), ("max-ticks", true)]

def worldOptions? (p : Parsed) : Option WorldOptions := do
  pure
    { map := ← p.read? "map" path?
      col := (← p.read? "col" nat64?).getD 1
      row := (← p.read? "row" nat64?).getD 1
      fps := (← p.read? "fps" nat64?).getD 60
      maxTicks := (← p.read? "max-ticks" nat64?).getD 100000 }

/-- Takes all arguments of a task apart. -/
def taskArguments? (options : List (String × Bool)) (args : List String) : Option Parsed := do
  let (p, _) ← Grammar.parse? ⟨options, none⟩ false args
  if p.isOnce then some p else none

def run? (args : List String) : Option Task := do
  let p ← taskArguments? (("whole", false) :: worldGrammar) args
  match p.positionals with
  | [script] => pure (.run (← path? script) (p.has "whole") (← worldOptions? p))
  | _ => none

def check? (args : List String) : Option Task := do
  let p ← taskArguments? [] args
  match p.positionals with
  | [line] => some (.check line)
  | _ => none

def repl? (args : List String) : Option Task := do
  let p ← taskArguments? worldGrammar args
  if p.positionals.isEmpty then (worldOptions? p).map .repl else none

def settings? (args : List String) : Option Task := do
  let p ← taskArguments?
    [("speed-level", true), ("move-speed", true), ("default-wait", true), ("max-repeat", true)] args
  if p.positionals.isEmpty then
    pure <| .settings
      { speedLevel := ← p.read? "speed-level" word8?
        moveSpeed := ← p.read? "move-speed" word32?
        defaultWait := ← p.read? "default-wait" word64?
        maxRepeat := ← p.read? "max-repeat" word32? }
  else none

/-- The tasks by name. -/
def task? : String → List String → Option Task
  | "run", args => run? args
  | "check", args => check? args
  | "repl", args => repl? args
  | "settings", args => settings? args
  | _, _ => none

/-- The invocation that the arguments spell, if they are in order. -/
def ofArguments? (args : List String) : Option Invocation := do
  let (p, rest) ← Grammar.parse? ⟨[("root", true)], some ('r', "root")⟩ true args
  let root ← p.read? "root" path?
  match p.positionals with
  | [name] => if p.isOnce then pure ⟨root.getD defaultRoot, ← task? name rest⟩ else none
  | _ => none

end Invocation

end GridScript.CommandLine
