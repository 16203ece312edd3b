import GridScript.Json.Basic

/-!
The tokens of a JSON text.

`Token.scan` cuts a text into tokens and drops the white space between them. The text is a list of
characters in which `none` stands for ill-formed bytes; those may stand in strings only.
-/

namespace GridScript.Json

inductive Token where
  | openArray
  | closeArray
  | openObject
  | closeObject
  | comma
  | colon
  | null
  | bool (b : Bool)
  | number (n : Number)
  | string (text : Option String)
deriving DecidableEq

/-- A text whose ill-formed pieces are `none`. -/
abbrev Source := List (Option Char)

def Source.ofString (s : String) : Source := s.toList.map some

/-- The white space of JSON. -/
def isSpace (c : Char) : Bool := c == ' ' || c == '\t' || c == '\n' || c == '\r'

/-! ### Numbers -/

/-- The digits that a text begins with, and the rest. -/
def digitRun : Source → List Char × Source
  | [] => ([], [])
  | none :: cs => ([], none :: cs)
  | some c :: cs =>
    if Text.isDigit c then
      let (ds, rest) := digitRun cs
      (c :: ds, rest)
    else ([], some c :: cs)

/-- A non-empty run of digits without a needless leading zero. -/
def wholePart (cs : Source) : Option (Nat × Source) :=
  let (ds, rest) := digitRun cs
  if ds.isEmpty || (ds.head? == some '0' && 1 < ds.length) then none
  else some (Text.numeralValue ds, rest)

def fractionPart : Source → Option (Option (List Char) × Source)
  | some '.' :: cs =>
    let (ds, rest) := digitRun cs
    if ds.isEmpty then none else some (some ds, rest)
  | cs => some (none, cs)

def exponentDigits (cs : Source) : Option (Nat × Source) :=
  let (ds, rest) := digitRun cs
  if ds.isEmpty then none else some (Text.numeralValue ds, rest)

def exponentPart : Source → Option (Option Int × Source)
  | some c :: cs =>
    if c == 'e' || c == 'E' then
      match cs with
      | some '-' :: cs => (exponentDigits cs).map fun (n, rest) => (some (-(n : Int)), rest)
      | some '+' :: cs => (exponentDigits cs).map fun (n, rest) => (some (n : Int), rest)
      | cs => (exponentDigits cs).map fun (n, rest) => (some (n : Int), rest)
    else some (none, some c :: cs)
  | cs => some (none, cs)

def unsignedNumber (negative : Bool) (cs : Source) : Option (Number × Source) := do
  let (whole, cs) ← wholePart cs
  let (fraction, cs) ← fractionPart cs
  let (exponent, cs) ← exponentPart cs
  pure (⟨negative, whole, fraction, exponent⟩, cs)

def scanNumber : Source → Option (Number × Source)
  | some '-' :: cs => unsignedNumber true cs
  | cs => unsignedNumber false cs

/-! ### Strings -/

/-- What a string is made of, before surrogates are paired. -/
inductive StringPiece where
  | char (c : Char)
  /-- Ill-formed bytes. -/
  | broken
  /-- A 16-bit unit, written as an escape. -/
  | escaped (n : Nat)

def hexValue? (c : Char) : Option Nat :=
  if '0' ≤ c && c ≤ '9' then some (c.toNat - 48)
  else if 'a' ≤ c && c ≤ 'f' then some (c.toNat - 87)
  else if 'A' ≤ c && c ≤ 'F' then some (c.toNat - 55)
  else none

def hex4? (a b c d : Char) : Option Nat := do
  pure (((← hexValue? a) * 16 + (← hexValue? b)) * 256 + (← hexValue? c) * 16 + (← hexValue? d))

/-- The character that a one-letter escape stands for. -/
def escape? : Char → Option Char
  | '"' => some '"'
  | '\\' => some '\\'
  | '/' => some '/'
  | 'b' => some '\x08'
  | 'f' => some '\x0c'
  | 'n' => some '\n'
  | 'r' => some '\r'
  | 't' => some '\t'
  | _ => none

/-- The inside of a string up to its closing quote, and the rest. -/
def stringPieces : Source → Option (List StringPiece × Source)
  | [] => none
  | some '"' :: cs => some ([], cs)
  | some '\\' :: some 'u' :: some a :: some b :: some c :: some d :: cs => do
    let n ← hex4? a b c d
    let (ps, rest) ← stringPieces cs
    pure (.escaped n :: ps, rest)
  | some '\\' :: some e :: cs => do
    let c ← escape? e
    let (ps, rest) ← stringPieces cs
    pure (.char c :: ps, rest)
  | some c :: cs =>
    if c.toNat < 0x20 || c == '\\' then none
    else (stringPieces cs).map fun (ps, rest) => (.char c :: ps, rest)
  | none :: cs => (stringPieces cs).map fun (ps, rest) => (.broken :: ps, rest)

def isHighSurrogate (n : Nat) : Bool := 0xD800 ≤ n && n < 0xDC00

def isLowSurrogate (n : Nat) : Bool := 0xDC00 ≤ n && n < 0xE000

/-- Pairs the surrogates; a surrogate left alone makes the string no Unicode text. -/
def joinPieces : List StringPiece → Option (List Char)
  | [] => some []
  | .char c :: ps => (joinPieces ps).map (c :: ·)
  | .broken :: _ => none
  | .escaped n :: .escaped m :: ps =>
    if isHighSurrogate n then
      if isLowSurrogate m then
        (joinPieces ps).map (Char.ofNat (0x10000 + (n - 0xD800) * 0x400 + (m - 0xDC00)) :: ·)
      else none
    else if isLowSurrogate n then none
    else (joinPieces (.escaped m :: ps)).map (Char.ofNat n :: ·)
  | .escaped n :: ps =>
    if isHighSurrogate n || isLowSurrogate n then none
    else (joinPieces ps).map (Char.ofNat n :: ·)

def scanString (cs : Source) : Option (Option String × Source) :=
  (stringPieces cs).map fun (ps, rest) => ((joinPieces ps).map String.ofList, rest)

/-! ### Tokens -/

/-- The token that a text begins with, and the rest. -/
def Token.next? : Source → Option (Token × Source)
  | some '[' :: cs => some (.openArray, cs)
  | some ']' :: cs => some (.closeArray, cs)
  | some '\x7b' :: cs => some (.openObject, cs)
  | some '\x7d' :: cs => some (.closeObject, cs)
  | some ',' :: cs => some (.comma, cs)
  | some ':' :: cs => some (.colon, cs)
  | some '"' :: cs => (scanString cs).map fun (s, rest) => (.string s, rest)
  | some 'n' :: some 'u' :: some 'l' :: some 'l' :: cs => some (.null, cs)
  | some 't' :: some 'r' :: some 'u' :: some 'e' :: cs => some (.bool true, cs)
  | some 'f' :: some 'a' :: some 'l' :: some 's' :: some 'e' :: cs => some (.bool false, cs)
  | cs => (scanNumber cs).map fun (n, rest) => (.number n, rest)

/-- Takes at most `fuel` steps; a step drops a space or reads a token. -/
def Token.scanWithin : Nat → Source → Option (List Token)
  | _, [] => some []
  | 0, _ :: _ => none
  | fuel + 1, c :: cs =>
    if c.any isSpace then scanWithin fuel cs
    else do
      let (t, rest) ← next? (c :: cs)
      (scanWithin fuel rest).map (t :: ·)

/-- The tokens of a text. Each step shortens the text, so its length bounds their number. -/
def Token.scan (cs : Source) : Option (List Token) := scanWithin cs.length cs

end GridScript.Json
