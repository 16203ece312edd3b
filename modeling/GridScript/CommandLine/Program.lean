import GridScript.CommandLine.Console
import GridScript.CommandLine.Files
import GridScript.Config.Store
import GridScript.Script.Encoding
import GridScript.Text.Unprintable

/-!
The program, as a function of its arguments, the files and its input.

Reading comes first: a script, settings or a map that cannot be read ends the program before it
prints anything. Settings are checked before they are saved.
-/

namespace GridScript.CommandLine

/-- What the program does: its exit code, what it prints, and the settings it saves. -/
structure Result where
  exitCode : Nat
  /-- What is printed, without the lines of a log. -/
  output : String
  /-- The bytes of the settings file to be written. -/
  saved : Option (List UInt8)

namespace Result

/-- The program ends with an error. -/
def failure : Result := ⟨1, "", none⟩

/-- The arguments are not in order. -/
def usage : Result := ⟨2, "", none⟩

def success (output : String) : Result := ⟨0, output, none⟩

end Result

/-- How files are read. -/
abbrev Reads := String → FileContent

def readText? (reads : Reads) (path : String) : Option (List Char) :=
  (reads path).bytes?.bind Text.Utf8.decode?

def settingsPath (root : String) : String := FilePath.inDirectory root SettingsStore.fileName

/-- The settings of a directory; a missing file stands for the defaults. -/
def loadConfig? (reads : Reads) (root : String) : Option Config :=
  match reads (settingsPath root) with
  | .missing => some {}
  | .unreadable => none
  | .bytes content => (Config.ofFileBytes content).toOption

/-- Opens the session of a run. -/
def openConsole? (reads : Reads) (root : String) (o : WorldOptions) : Option Console :=
  if o.fps = 0 then none
  else do
    let config ← loadConfig? reads root
    let map ←
      match o.map with
      | some path => readText? reads path
      | none => some demoMap.toList
    (Console.new config map o).toOption

/-- Runs a script and reports how things stand. -/
def runScript (c : Console) (whole : Bool) (source : List Char) : Result :=
  let (ok, output, c) :=
    if whole then
      let (report, output, c) := c.submit (String.ofList source)
      (report.success, output, c)
    else c.runLines (scriptLines source)
  Result.success <|
    unlines (output ++ c.status ++ if ok then [] else ["Script contained errors"])

/-- Shows the statements of a line; the exit code tells whether all could be read. -/
def checkLine (c : Config) (line : String) : Result :=
  let parts := Script.readLine c.maxRepeat line.toList
  let shown := parts.map fun
    | .ok s => s.toJson.compactText
    | .error e => "error: " ++ e.message
  ⟨if (Script.errors parts).isEmpty then 0 else 1, unlines shown, none⟩

/-! ### The prompt -/

def promptText : String := "codequest> "

/-- The answer to a typed line. -/
structure Answer where
  text : String
  console : Console
  /-- Another line may follow. -/
  goesOn : Bool

/-- Answers a line that was typed. -/
def answerLine (c : Console) (line : List Char) : Answer :=
  if isQuit line then ⟨"", c, false⟩
  else
    let (_, output, c) := c.submit (String.ofList line)
    let text := unlines (output ++ c.status)
    if c.isGameOver then ⟨text, c, false⟩ else ⟨text ++ promptText, c, true⟩

/-- Answers lines until the session ends: all that is printed, and how things stand then. -/
def answerLines (c : Console) : List (List Char) → String × Console
  | [] => ("", c)
  | line :: lines =>
    let a := answerLine c line
    if a.goesOn then
      let (later, c) := answerLines a.console lines
      (a.text ++ later, c)
    else (a.text, a.console)

/-! ### Settings -/

/-- The settings with the changes made. -/
def Changes.apply (ch : Changes) (c : Config) : Config :=
  { c with
    actionDelay := (ch.speedLevel.map speedDelay).getD c.actionDelay
    moveSpeed := ch.moveSpeed.getD c.moveSpeed
    defaultWait := ch.defaultWait.getD c.defaultWait
    maxRepeat := ch.maxRepeat.getD c.maxRepeat }

def Changes.isNone (ch : Changes) : Bool :=
  ch.speedLevel.isNone && ch.moveSpeed.isNone && ch.defaultWait.isNone && ch.maxRepeat.isNone

/-- A character of a path as it is shown between quotes. -/
def shownChar (c : Char) : List Char :=
  match c with
  | '"' => ['\\', '"']
  | '\\' => ['\\', '\\']
  | '\t' => ['\\', 't']
  | '\n' => ['\\', 'n']
  | '\r' => ['\\', 'r']
  | '\x00' => ['\\', '0']
  | c =>
    if Text.isUnprintable c then
      '\\' :: 'u' :: '\x7b' :: Nat.toDigits 16 c.toNat ++ ['\x7d']
    else [c]

def shownPath (path : String) : String :=
  String.ofList ('"' :: path.toList.flatMap shownChar ++ ['"'])

/-- Shows the settings, after saving them if something is to be changed. -/
def changeSettings (root : String) (c : Config) (ch : Changes) : Result :=
  let c := ch.apply c
  let text := String.ofList c.fileText ++ "\n"
  if ch.isNone then Result.success text
  else
    match c.fault? with
    | some _ => Result.failure
    | none =>
      ⟨0, "Saved settings to " ++ shownPath (settingsPath root) ++ "\n" ++ text, some c.fileBytes⟩

/-! ### The whole program -/

/-- Carries out a task; `input` is what is typed at the prompt. -/
def Invocation.perform (i : Invocation) (reads : Reads) (input : List Char) : Result :=
  match i.task with
  | .run script whole o =>
    match readText? reads script, openConsole? reads i.root o with
    | some source, some c => runScript c whole source
    | _, _ => Result.failure
  | .check line =>
    match loadConfig? reads i.root with
    | some c => checkLine c line
    | none => Result.failure
  | .repl o =>
    match openConsole? reads i.root o with
    | some c => Result.success (promptText ++ (answerLines c (Text.lines input)).1)
    | none => Result.failure
  | .settings ch =>
    match loadConfig? reads i.root with
    | some c => changeSettings i.root c ch
    | none => Result.failure

/-- The paths that a task may read. -/
def Invocation.paths (i : Invocation) : List String :=
  settingsPath i.root ::
    match i.task with
    | .run script _ o => script :: o.map.toList
    | .repl o => o.map.toList
    | _ => []

/-- Performs what the arguments ask for on a tree of files; settings that cannot be saved, or not for
sure, are a failure, and nothing is printed then. -/
def runProgram (args : List String) (t : FileTree) (input : List Char) : Result × FileTree :=
  match Invocation.ofArguments? args with
  | none => (Result.usage, t)
  | some i =>
    let r := i.perform t.read input
    match r.saved with
    | none => (r, t)
    | some content =>
      let (written, t) := t.write i.root SettingsStore.fileName content
      (if written = .done then r else Result.failure, t)

end GridScript.CommandLine
