import GridScript.Grid.Direction

/-!
The statements of the command language.

A statement is a command, a loop over a counting variable, or a statement under a condition.
-/

namespace GridScript

inductive Comparison where
  | lt
  | gt
  | eq
  | ne
  | le
  | ge
deriving DecidableEq, Repr

namespace Comparison

def tokens : List (String × Comparison) :=
  [("<", lt), (">", gt), ("==", eq), ("!=", ne), ("<=", le), (">=", ge)]

def ofToken? (token : List Char) : Option Comparison := tokens.lookup (String.ofList token)

def holds (op : Comparison) (a b : Int) : Bool :=
  match op with
  | lt => a < b
  | gt => b < a
  | eq => a == b
  | ne => a != b
  | le => a ≤ b
  | ge => b ≤ a

end Comparison

/-- Compares a variable with a number. -/
structure Condition where
  name : String
  op : Comparison
  value : Int
deriving DecidableEq, Repr

inductive Command where
  | move (d : Direction)
  | walk (d : Direction) (count : UInt32)
  | turn (d : Direction)
  /-- Without a time, the default wait. -/
  | wait (ms : Option UInt64)
  | print (message : String)
  | clear
deriving DecidableEq, Repr

inductive Statement where
  | command (c : Command)
  /-- The body once for each value of the variable below the count. -/
  | loop (name : String) (count : UInt32) (body : Statement)
  /-- The body if the condition holds. -/
  | guarded (condition : Condition) (body : Statement)
deriving DecidableEq, Repr

/-- Why a text is no statement. Each cause carries the text it is about. -/
inductive ParseError where
  | unrecognized (text : String)
  | malformedLoop (text : String)
  | malformedCondition (text : String)
  | badNumber (text : String)
deriving DecidableEq, Repr

namespace ParseError

def text : ParseError → String
  | unrecognized t => t
  | malformedLoop t => t
  | malformedCondition t => t
  | badNumber t => t

def message : ParseError → String
  | unrecognized t => "unrecognized statement: " ++ t
  | malformedLoop t => "malformed loop header: " ++ t
  | malformedCondition t => "malformed condition: " ++ t
  | badNumber t => "invalid number: " ++ t

end ParseError

end GridScript
