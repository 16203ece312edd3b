import GridScript.Script.Scan
import GridScript.Script.Statement
import GridScript.Text.Split

/-!
Reading statements and lines.

A body is the rest of its statement and is read like a statement of its own, but a loop body holds
no loop and the body of a condition holds a command only. An error is about the statement or body in
which it is found, about the text of a condition, or about a number.

A line is a list of statements between semicolons and line feeds, unless it begins with a loop or a
condition: that one claims the whole line.
-/

namespace GridScript.Script

/-- The largest count in loops and walks unless the settings say otherwise. -/
def defaultLimit : UInt32 := 1000

abbrev Reading := Except ParseError

def unrecognized (src : List Char) : ParseError := .unrecognized (String.ofList src)

def orElse (error : ParseError) : Option α → Reading α
  | some a => .ok a
  | none => .error error

/-! ### Numbers -/

/-- A count of steps or rounds: 32 bits, and not above the limit. -/
def readCount (limit : UInt32) (cs : List Char) : Reading UInt32 :=
  orElse (.badNumber (String.ofList cs)) <|
    ((Text.unsigned? cs).bind Text.word32?).filter (· ≤ limit)

def readMillis (cs : List Char) : Reading UInt64 :=
  orElse (.badNumber (String.ofList cs)) ((Text.unsigned? cs).bind Text.word64?)

/-- The number of a condition: below `2 ^ 63`. -/
def readBound (cs : List Char) : Reading Int :=
  orElse (.badNumber (String.ofList cs)) <|
    ((Text.natural? cs).filter (· < 9223372036854775808)).map Int.ofNat

/-! ### Commands -/

/-- A gap, a direction, and nothing more. -/
def direction? (cs : List Char) : Option Direction := do
  let (w, rest) := word (← gap? cs)
  let d ← Direction.ofWord? w
  if isDone rest then some d else none

/-- Takes one opening and one closing quote off a text. -/
def unquote (cs : List Char) : List Char :=
  let isQuote (c : Char) := c == '"' || c == '\''
  let cs := if cs.head?.any isQuote then cs.tail else cs
  if cs.getLast?.any isQuote then cs.dropLast else cs

/-- The message of a print: without its parentheses, then without its quotes. -/
def message (cs : List Char) : List Char :=
  let cs := Text.trim cs
  unquote <|
    if cs.head? = some '(' ∧ cs.getLast? = some ')' then Text.trim cs.tail.dropLast else cs

def readWalk (limit : UInt32) (src rest : List Char) : Reading Command := do
  let rest ← orElse (unrecognized src) (gap? rest)
  let (count, rest) := token rest
  let count ← readCount limit count
  let d ← orElse (unrecognized src) (direction? rest)
  pure (.walk d count)

def readWait (src rest : List Char) : Reading Command :=
  if isDone rest then .ok (.wait none)
  else do
    let (ms, rest) := token (skipGap rest)
    let ms ← readMillis ms
    if isDone rest then pure (.wait (some ms)) else throw (unrecognized src)

/-- What may follow the keyword of a print. -/
def opensMessage (c : Char) : Bool := isGap c || c == '(' || c == '"' || c == '\''

def readPrint (src rest : List Char) : Reading Command :=
  if rest.head?.any opensMessage then .ok (.print (String.ofList (message rest)))
  else .error (unrecognized src)

/-- The direction of a call such as `player.moveup()`, from what follows `player.move`. -/
def calledDirection? (rest : List Char) : Option Direction :=
  (before? "()" rest).bind Direction.ofWord?

def readCommand (limit : UInt32) (src : List Char) : Reading Command :=
  match after? "player.move" src with
  | some rest => orElse (unrecognized src) ((calledDirection? rest).map .move)
  | none =>
    let (w, rest) := word src
    match String.ofList w with
    | "move" => orElse (unrecognized src) ((direction? rest).map .move)
    | "turn" => orElse (unrecognized src) ((direction? rest).map .turn)
    | "walk" => readWalk limit src rest
    | "wait" => readWait src rest
    | "print" => readPrint src rest
    | "clear" | "stop" => if isDone rest then .ok .clear else .error (unrecognized src)
    | _ => .error (unrecognized src)

/-! ### Headers -/

/-- The variable and the digits of a loop header, and the rest after the digits. -/
def loopStart? (rest : List Char) : Option (List Char × List Char × List Char) := do
  let (name, cs) ← name? (skipGap rest)
  let cs ← keyword? "in" (← gap? cs)
  let cs ← keyword? "range" (← gap? cs)
  let cs ← symbol? '(' (skipGap cs)
  let (digits, cs) := digitRun (skipGap cs)
  if digits.isEmpty then none else some (name, digits, cs)

/-- The body after the end of a loop header. -/
def loopBody? (cs : List Char) : Option (List Char) := do
  let cs ← symbol? ')' (skipGap cs)
  let cs ← symbol? ':' (skipGap cs)
  if isDone cs then none else some (skipGap cs)

def isOperatorChar (c : Char) : Bool := c == '<' || c == '>' || c == '!' || c == '='

/-- The name, the operator and the digits of a condition, and the rest after the digits. -/
def conditionParts? (cs : List Char) :
    Option (List Char × Comparison × List Char × List Char) := do
  let (name, cs) ← name? cs
  let (op, cs) := run isOperatorChar (skipGap cs)
  let op ← Comparison.ofToken? op
  let (digits, cs) := digitRun (skipGap cs)
  if digits.isEmpty then none else some (name, op, digits, cs)

def readCondition (cs : List Char) : Reading Condition := do
  let malformed := ParseError.malformedCondition (String.ofList cs)
  let (name, op, digits, rest) ← orElse malformed (conditionParts? cs)
  let value ← readBound digits
  if isDone rest then pure ⟨String.ofList name, op, value⟩ else throw malformed

/-- The text before the first colon and the text after it. -/
def atColon? (cs : List Char) : Option (List Char × List Char) :=
  match run (· != ':') cs with
  | (_, []) => none
  | (front, _ :: rest) => some (front, rest)

/-! ### Statements -/

/-- The form of a statement, with what follows its keyword. -/
inductive Form where
  | loop (rest : List Char)
  | guarded (rest : List Char)
  | plain

/-- A loop or a condition has its keyword and a gap. -/
def form (src : List Char) : Form :=
  let (w, rest) := word src
  if !startsWithGap rest then .plain
  else if String.ofList w = "for" then .loop rest
  else if String.ofList w = "if" then .guarded rest
  else .plain

/-- The body of a condition. -/
def readGuardedBody (limit : UInt32) (src : List Char) : Reading Statement :=
  match form src with
  | .plain => (readCommand limit src).map .command
  | _ => .error (unrecognized src)

def readGuarded (limit : UInt32) (src rest : List Char) : Reading Statement := do
  let malformed := ParseError.malformedCondition (String.ofList src)
  let (front, rest) ← orElse malformed (atColon? rest)
  let condition ← readCondition (Text.trim front)
  if isDone rest then throw malformed
  else (readGuardedBody limit (skipGap rest)).map (.guarded condition)

/-- The body of a loop. -/
def readLoopBody (limit : UInt32) (src : List Char) : Reading Statement :=
  match form src with
  | .plain => (readCommand limit src).map .command
  | .guarded rest => readGuarded limit src rest
  | .loop _ => .error (unrecognized src)

def readLoop (limit : UInt32) (src rest : List Char) : Reading Statement := do
  let malformed := ParseError.malformedLoop (String.ofList src)
  let (name, digits, rest) ← orElse malformed (loopStart? rest)
  let count ← readCount limit digits
  let body ← orElse malformed (loopBody? rest)
  (readLoopBody limit body).map (.loop (String.ofList name) count)

/-- Reads a statement that has no blanks at its ends. -/
def readTrimmed (limit : UInt32) (src : List Char) : Reading Statement :=
  match form src with
  | .plain => (readCommand limit src).map .command
  | .guarded rest => readGuarded limit src rest
  | .loop rest => readLoop limit src rest

/-- Reads a text as one statement. -/
def readStatement (limit : UInt32) (src : List Char) : Reading Statement :=
  readTrimmed limit (Text.trim src)

/-! ### Lines -/

def isSeparator (c : Char) : Bool := c == ';' || c == '\n'

/-- The line begins with a loop or a condition, its keyword followed by a space. -/
def claimsLine (cs : List Char) : Bool := (after? "for " cs).isSome || (after? "if " cs).isSome

/-- The texts of the statements of a line; blank ones do not count. -/
def lineParts (cs : List Char) : List (List Char) :=
  let cs := Text.trim cs
  if claimsLine cs then [cs]
  else ((Text.split isSeparator cs).map Text.trim).filter (! ·.isEmpty)

/-- Reads every statement of a line, also after one that is faulty. -/
def readLine (limit : UInt32) (cs : List Char) : List (Reading Statement) :=
  (lineParts cs).map (readStatement limit)

end GridScript.Script
