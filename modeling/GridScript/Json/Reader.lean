import GridScript.Json.Token

/-!
Reading a JSON text.

The reader goes down the grammar over the tokens of the text. It knows no limit of its own on
nesting: its fuel is computed from the number of tokens, and every text has enough of it.
-/

namespace GridScript.Json

mutual

/-- The value that the tokens begin with, and the rest. -/
def value : Nat → List Token → Option (Json × List Token)
  | 0, _ => none
  | _, [] => none
  | fuel + 1, t :: ts =>
    match t with
    | .null => some (.null, ts)
    | .bool b => some (.bool b, ts)
    | .number n => some (.number n, ts)
    | .string s => some (.string s, ts)
    | .openArray =>
      match ts with
      | .closeArray :: ts => some (.array [], ts)
      | ts => (elements fuel ts).map fun (vs, rest) => (.array vs, rest)
    | .openObject =>
      match ts with
      | .closeObject :: ts => some (.object [], ts)
      | ts => (members fuel ts).map fun (ms, rest) => (.object ms, rest)
    | _ => none

/-- One or more elements up to the closing bracket, and the rest. -/
def elements : Nat → List Token → Option (List Json × List Token)
  | 0, _ => none
  | fuel + 1, ts =>
    match value fuel ts with
    | some (v, .comma :: ts) => (elements fuel ts).map fun (vs, rest) => (v :: vs, rest)
    | some (v, .closeArray :: ts) => some ([v], ts)
    | _ => none

/-- One or more members up to the closing brace, and the rest. -/
def members : Nat → List Token → Option (List (Option String × Json) × List Token)
  | 0, _ => none
  | fuel + 1, .string key :: .colon :: ts =>
    match value fuel ts with
    | some (v, .comma :: ts) => (members fuel ts).map fun (ms, rest) => ((key, v) :: ms, rest)
    | some (v, .closeObject :: ts) => some ([(key, v)], ts)
    | _ => none
  | _, _ => none

end

/-- The value that the tokens are, all of them. -/
def ofTokens? (ts : List Token) : Option Json :=
  match value (2 * ts.length + 1) ts with
  | some (v, []) => some v
  | _ => none

/-- Reads a whole text as one value. -/
def parse? (text : Source) : Option Json := (Token.scan text).bind ofTokens?

end GridScript.Json
