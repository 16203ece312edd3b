import GridScript.Json.Basic

/-!
Writing a JSON value, on one line or indented by two spaces a level.

In a string, the quote, the backslash and the control characters are escaped, with the short escape
where there is one; all else is written as it is.
-/

namespace GridScript.Json

def hexDigit (n : Nat) : Char := if n < 10 then Char.ofNat (48 + n) else Char.ofNat (87 + n)

def escapeChar (c : Char) : List Char :=
  match c with
  | '"' => ['\\', '"']
  | '\\' => ['\\', '\\']
  | '\x08' => ['\\', 'b']
  | '\x0c' => ['\\', 'f']
  | '\n' => ['\\', 'n']
  | '\r' => ['\\', 'r']
  | '\t' => ['\\', 't']
  | c =>
    if c.toNat < 0x20 then ['\\', 'u', '0', '0', hexDigit (c.toNat / 16), hexDigit (c.toNat % 16)]
    else [c]

def quoted (cs : List Char) : List Char := '"' :: cs.flatMap escapeChar ++ ['"']

/-- A string that is no Unicode text is written as a lone surrogate. -/
def writeString : Option String → List Char
  | some s => quoted s.toList
  | none => ['"', '\\', 'u', 'd', '8', '0', '0', '"']

def writeNumber (n : Number) : List Char :=
  (if n.negative then ['-'] else []) ++ Text.digits n.whole ++
    (match n.fraction with | some ds => '.' :: ds | none => []) ++
    (match n.exponent with | some e => 'e' :: Text.integerDigits e | none => [])

def writeBool (b : Bool) : List Char :=
  if b then ['t', 'r', 'u', 'e'] else ['f', 'a', 'l', 's', 'e']

mutual

/-- The text on one line, without spaces. -/
def compact : Json → List Char
  | null => ['n', 'u', 'l', 'l']
  | bool b => writeBool b
  | number n => writeNumber n
  | string s => writeString s
  | array [] => ['[', ']']
  | array (v :: vs) => '[' :: compact v ++ compactElements vs
  | object [] => ['\x7b', '\x7d']
  | object ((key, v) :: ms) => '\x7b' :: writeString key ++ ':' :: compact v ++ compactMembers ms

/-- The elements after the first, and the closing bracket. -/
def compactElements : List Json → List Char
  | [] => [']']
  | v :: vs => ',' :: compact v ++ compactElements vs

/-- The members after the first, and the closing brace. -/
def compactMembers : List (Option String × Json) → List Char
  | [] => ['\x7d']
  | (key, v) :: ms => ',' :: writeString key ++ ':' :: compact v ++ compactMembers ms

end

/-- A line feed and the indentation of a level. -/
def newline (level : Nat) : List Char := '\n' :: List.replicate (2 * level) ' '

mutual

/-- The text with a line for each element and member, inside `level` containers. -/
def pretty (level : Nat) : Json → List Char
  | null => ['n', 'u', 'l', 'l']
  | bool b => writeBool b
  | number n => writeNumber n
  | string s => writeString s
  | array [] => ['[', ']']
  | array (v :: vs) =>
    '[' :: newline (level + 1) ++ pretty (level + 1) v ++ prettyElements level vs
  | object [] => ['\x7b', '\x7d']
  | object ((key, v) :: ms) =>
    '\x7b' :: newline (level + 1) ++ writeString key ++ ':' :: ' ' :: pretty (level + 1) v ++
      prettyMembers level ms

def prettyElements (level : Nat) : List Json → List Char
  | [] => newline level ++ [']']
  | v :: vs => ',' :: newline (level + 1) ++ pretty (level + 1) v ++ prettyElements level vs

def prettyMembers (level : Nat) : List (Option String × Json) → List Char
  | [] => newline level ++ ['\x7d']
  | (key, v) :: ms =>
    ',' :: newline (level + 1) ++ writeString key ++ ':' :: ' ' :: pretty (level + 1) v ++
      prettyMembers level ms

end

def compactText (j : Json) : String := String.ofList j.compact

def prettyText (j : Json) : String := String.ofList (j.pretty 0)

end GridScript.Json
