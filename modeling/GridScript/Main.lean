import GridScript.CommandLine.Program

/-!
The program on the real files and streams.
-/

namespace GridScript.CommandLine

def readFile (path : String) : IO FileContent := do
  try
    pure (.bytes (← IO.FS.readBinFile path).toList)
  catch
    | .noFileOrDirectory .. => pure .missing
    | _ => pure .unreadable

/-- Writes a file beside its place and moves it there; what cannot be moved goes again. -/
def saveFile (directory path : String) (content : List UInt8) : IO Unit := do
  let beside := path ++ FilePath.temporary
  IO.FS.createDirAll directory
  IO.FS.writeBinFile beside content.toByteArray
  try
    IO.FS.rename beside path
  catch e =>
    IO.FS.removeFile beside
    throw e

/-- Reads the files of an invocation. -/
def readFiles (i : Invocation) : IO Reads := do
  let contents ← i.paths.mapM fun path => do pure (path, ← readFile path)
  pure fun path => (contents.lookup path).getD .missing

/-- Answers typed lines as they come. -/
partial def prompt (c : Console) : IO Unit := do
  let line ← (← IO.getStdin).getLine
  match Text.lines line.toList with
  | [] => pure ()
  | typed :: _ =>
    let a := answerLine c typed
    IO.print a.text
    (← IO.getStdout).flush
    if a.goesOn then prompt a.console

def perform (i : Invocation) : IO UInt32 := do
  let reads ← readFiles i
  match i.task with
  | .repl o =>
    match openConsole? reads i.root o with
    | some c =>
      IO.print promptText
      (← IO.getStdout).flush
      prompt c
      pure 0
    | none => pure 1
  | _ =>
    let r := i.perform reads []
    if let some content := r.saved then saveFile i.root (settingsPath i.root) content
    IO.print r.output
    pure r.exitCode.toUInt32

end GridScript.CommandLine

open GridScript.CommandLine in
def main (args : List String) : IO UInt32 :=
  match Invocation.ofArguments? args with
  | some i => perform i
  | none => do
    IO.eprintln "usage: [--root DIR] run SCRIPT | check LINE | repl | settings"
    pure 2
