import GridScript.Text.Numeral

/-!
The arguments of the program.

Arguments are options and positional values. An option takes its value after an equals sign or from
the next argument, which may not look like an option then; after two dashes all arguments are
positional. No option may be given twice.
-/

namespace GridScript.CommandLine

/-- The options of a level: their names, and whether they take a value. -/
structure Grammar where
  options : List (String × Bool)
  /-- The letter of an option, if one has a letter. -/
  letter : Option (Char × String)

/-- Arguments taken apart. An option without a value has `none`. -/
structure Parsed where
  options : List (String × Option String)
  positionals : List String

/-- The argument may be the value of the option before it. -/
def isValue (arg : String) : Bool := arg.toList.head? != some '-' || arg == "-"

/-- The name and the attached value of a long option. -/
def atEquals (cs : List Char) : String × Option String :=
  match cs.dropWhile (· != '=') with
  | [] => (String.ofList cs, none)
  | _ :: value => (String.ofList (cs.takeWhile (· != '=')), some (String.ofList value))

/-- An option as it is written: its name, and its value if that is attached. -/
def Grammar.written? (g : Grammar) (arg : String) : Option (String × Option String) :=
  match arg.toList with
  | '-' :: '-' :: cs => some (atEquals cs)
  | '-' :: c :: cs =>
    match g.letter with
    | some (letter, name) =>
      if c = letter then
        match cs with
        | [] => some (name, none)
        | '=' :: value => some (name, some (String.ofList value))
        | value => some (name, some (String.ofList value))
      else none
    | none => none
  | _ => none

/-- What an argument tells of an option. -/
inductive Mention where
  /-- All of it: it takes no value, or the value is attached. -/
  | whole (name : String) (value : Option String)
  /-- Its name only: the value is the next argument. -/
  | awaiting (name : String)

/-- The option of the grammar that an argument is about, if it is one and is written as it should. -/
def Grammar.mention? (g : Grammar) (arg : String) : Option Mention := do
  let (name, attached) ← g.written? arg
  match ← g.options.lookup name, attached with
  | false, none => some (.whole name none)
  | true, some value => some (.whole name (some value))
  | true, none => some (.awaiting name)
  | false, some _ => none

/-- Puts an option before arguments that were taken apart. -/
def Parsed.withOption (p : Parsed) (name : String) (value : Option String) : Parsed :=
  { p with options := (name, value) :: p.options }

/-- Puts a positional value before arguments that were taken apart. -/
def Parsed.withPositional (p : Parsed) (arg : String) : Parsed :=
  { p with positionals := arg :: p.positionals }

/-- Takes arguments apart, where the first may have to be the value of an option. -/
def Grammar.parseFrom? (g : Grammar) (stop : Bool) :
    Option String → List String → Option (Parsed × List String)
  | some _, [] => none
  | none, [] => some (⟨[], []⟩, [])
  | some name, value :: args =>
    if isValue value then
      (g.parseFrom? stop none args).map fun (p, rest) => (p.withOption name (some value), rest)
    else none
  | none, arg :: args =>
    if arg = "--" then if stop then none else some (⟨[], args⟩, [])
    else if isValue arg then
      if stop then some (⟨[], [arg]⟩, args)
      else (g.parseFrom? stop none args).map fun (p, rest) => (p.withPositional arg, rest)
    else
      match g.mention? arg with
      | none => none
      | some (.whole name value) =>
        (g.parseFrom? stop none args).map fun (p, rest) => (p.withOption name value, rest)
      | some (.awaiting name) => g.parseFrom? stop (some name) args

/-- Takes arguments apart. With `stop`, all after the first positional value is left over, and that
value may not come after two dashes. -/
def Grammar.parse? (g : Grammar) (stop : Bool) (args : List String) :
    Option (Parsed × List String) :=
  g.parseFrom? stop none args

/-- No option is given twice. -/
def Parsed.isOnce (p : Parsed) : Bool :=
  p.options.all fun o => (p.options.filter fun q => q.1 == o.1).length == 1

def Parsed.has (p : Parsed) (name : String) : Bool := p.options.any fun o => o.1 == name

/-- The value of an option, if it is given. -/
def Parsed.value? (p : Parsed) (name : String) : Option String :=
  (p.options.find? fun o => o.1 == name).bind (·.2)

/-- The value of an option, read; a value that cannot be read is a fault. -/
def Parsed.read? (p : Parsed) (name : String) (f : String → Option α) : Option (Option α) :=
  match p.value? name with
  | none => some none
  | some s => (f s).map some

/-- A path is not empty. -/
def path? (s : String) : Option String := if s.isEmpty then none else some s

def nat64? (s : String) : Option Nat := (Text.unsigned? s.toList).filter (· < UInt64.size)

def word64? (s : String) : Option UInt64 := (Text.unsigned? s.toList).bind Text.word64?

/-- An integer in the range of a word; minus zero counts as zero. -/
def smallWord? (word? : Nat → Option α) (s : String) : Option α := do
  let i ← Text.signed? s.toList
  if i < 0 then none else word? i.toNat

def word8? (s : String) : Option UInt8 := smallWord? Text.word8? s

def word32? (s : String) : Option UInt32 := smallWord? Text.word32? s

end GridScript.CommandLine
