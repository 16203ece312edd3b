import GridScript.Grid.Encoding
import GridScript.Script.Statement

/-!
Statements as JSON.

A command or a statement is tagged with its kind. Only the command that clears has no value beside
its tag when it is written.
-/

namespace GridScript

namespace Comparison

def names : List (String × Comparison) :=
  [("Lt", lt), ("Gt", gt), ("Eq", eq), ("Ne", ne), ("Le", le), ("Ge", ge)]

def name : Comparison → String
  | lt => "Lt"
  | gt => "Gt"
  | eq => "Eq"
  | ne => "Ne"
  | le => "Le"
  | ge => "Ge"

end Comparison

namespace Condition

def toJson (c : Condition) : Json :=
  Json.record
    [("ident", Json.ofString c.name), ("op", Json.ofString c.op.name), ("value", Json.ofInt c.value)]

def ofJson? (mode : Json.Mode) (room : Nat) (j : Json) : Option Condition := do
  let [name, op, value] ← j.record? room ["ident", "op", "value"] | none
  pure ⟨← name.asString?, ← op.name? mode (room - 1) Comparison.names, ← value.asInt64?⟩

end Condition

/-- A direction and a count, as an array of two. -/
def walkToJson (d : Direction) (count : UInt32) : Json :=
  Json.array [d.toJson, Json.ofNat count.toNat]

def walkOfJson? (mode : Json.Mode) (room : Nat) (j : Json) : Option (Direction × UInt32) := do
  let [d, count] ← j.asTuple? room 2 | none
  pure (← Direction.ofJson? mode (room - 1) d, ← count.asWord32?)

namespace Command

/-- The kinds of commands. -/
inductive Kind where
  | move
  | walk
  | turn
  | wait
  | print
  | clear
deriving DecidableEq

def Kind.names : List (String × Kind) :=
  [("Move", move), ("Walk", walk), ("Turn", turn), ("Wait", wait), ("Print", print),
    ("Clear", clear)]

def toJson : Command → Json
  | move d => Json.taggedRecord "Move" d.toJson
  | walk d count => Json.taggedRecord "Walk" (walkToJson d count)
  | turn d => Json.taggedRecord "Turn" d.toJson
  | wait ms => Json.taggedRecord "Wait" (Json.ofOption (fun n => Json.ofNat n.toNat) ms)
  | print text => Json.taggedRecord "Print" (Json.ofString text)
  | clear => Json.record [("type", Json.ofString "Clear")]

/-- Reads a command; a wait may leave out its value, and clearing has none or null. -/
def ofJson? (mode : Json.Mode) (room : Nat) (j : Json) : Option Command := do
  let t ← j.tagged? mode room Kind.names
  let room := room - 1
  match t.tag, t.content with
  | .clear, none => some .clear
  | .clear, some v => if v.isNull then some .clear else none
  | .wait, none => some (.wait none)
  | .wait, some v => (v.asOption? Json.asWord64?).map .wait
  | .move, some v => (Direction.ofJson? t.mode room v).map .move
  | .turn, some v => (Direction.ofJson? t.mode room v).map .turn
  | .walk, some v => (walkOfJson? t.mode room v).map fun (d, count) => .walk d count
  | .print, some v => v.asString?.map .print
  | _, none => none

end Command

namespace Statement

/-- The kinds of statements. -/
inductive Kind where
  | command
  | loop
  | guarded
deriving DecidableEq

def Kind.names : List (String × Kind) := [("Command", command), ("For", loop), ("If", guarded)]

def toJson : Statement → Json
  | command c => Json.taggedRecord "Command" c.toJson
  | loop name count body =>
    Json.taggedRecord "For" <|
      Json.record
        [("var", Json.ofString name), ("count", Json.ofNat count.toNat), ("body", body.toJson)]
  | guarded condition body =>
    Json.taggedRecord "If" <|
      Json.record [("condition", condition.toJson), ("body", body.toJson)]

/-- Reads a statement. Its value is a container too, so a statement takes two levels at least. -/
def ofJson? (mode : Json.Mode) : Nat → Json → Option Statement
  | room + 2, j => do
    let t ← j.tagged? mode (room + 2) Kind.names
    let v ← t.content
    match t.tag with
    | .command => (Command.ofJson? t.mode (room + 1) v).map .command
    | .loop =>
      let [name, count, body] ← v.objectRecord? (room + 1) ["var", "count", "body"] | none
      pure (.loop (← name.asString?) (← count.asWord32?) (← ofJson? t.mode room body))
    | .guarded =>
      let [condition, body] ← v.objectRecord? (room + 1) ["condition", "body"] | none
      pure (.guarded (← Condition.ofJson? t.mode room condition) (← ofJson? t.mode room body))
  | _, _ => none

end Statement

end GridScript
