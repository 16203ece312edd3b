import GridScript.Grid.TileMap
import GridScript.Text.Split
import GridScript.Text.Numeral

/-!
Maps as text: one row of tile ids a line, with blanks between the ids.

Blank lines do not count. The first faulty row is reported: an id that is none, or a row that is not
as long as the first.
-/

namespace GridScript

inductive MapError where
  | empty
  | raggedRow (row expected found : Nat)
  | invalidTile (row column : Nat) (token : String)
deriving DecidableEq, Repr

def MapError.message : MapError → String
  | empty => "map has no rows"
  | raggedRow row expected found =>
    "row " ++ Text.natText row ++ " has " ++ Text.natText found ++ " columns, expected " ++
      Text.natText expected
  | invalidTile row column token =>
    "invalid tile id '" ++ token ++ "' at row " ++ Text.natText row ++ ", column " ++
      Text.natText column

namespace TileMap

def readTile? (token : List Char) : Option UInt8 := (Text.unsigned? token).bind Text.word8?

/-- The ids of one row, from some column on. -/
def readRow (row : Nat) : (column : Nat) → List (List Char) → Except MapError (List UInt8)
  | _, [] => .ok []
  | column, token :: tokens =>
    match readTile? token with
    | none => .error (.invalidTile row column (String.ofList token))
    | some id => (readRow row (column + 1) tokens).map (id :: ·)

/-- The ids of the rows, from some row on. -/
def readRows (columns : Nat) : (row : Nat) → List (List (List Char)) → Except MapError (List UInt8)
  | _, [] => .ok []
  | row, tokens :: rest => do
    let ids ← readRow row 0 tokens
    if tokens.length = columns then
      let later ← readRows columns (row + 1) rest
      pure (ids ++ later)
    else throw (.raggedRow row columns tokens.length)

/-- The tokens of the rows of a text. -/
def tokenRows (text : List Char) : List (List (List Char)) :=
  (((Text.lines text).map Text.trim).filter (! ·.isEmpty)).map Text.words

/-- Reads a map; it takes its width from its first row. -/
def parse (text : List Char) (tileSize : UInt32) : Except MapError TileMap :=
  match tokenRows text with
  | [] => .error .empty
  | first :: rest => do
    let ids ← readRows first.length 0 (first :: rest)
    pure
      { columns := first.length
        rows := rest.length + 1
        tileSize := atLeastOne tileSize
        tiles := ids.toArray
        solid := defaultSolid }

end TileMap

end GridScript
