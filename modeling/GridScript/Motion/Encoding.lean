import GridScript.Motion.Action
import GridScript.Script.Encoding

/-!
Actions as JSON.
-/

namespace GridScript.Action

/-- The kinds of actions. -/
inductive Kind where
  | step
  | walk
  | turn
  | wait
  | print
deriving DecidableEq

def Kind.names : List (String × Kind) :=
  [("MoveStep", step), ("WalkN", walk), ("Turn", turn), ("Wait", wait), ("Print", print)]

def toJson : Action → Json
  | step d => Json.taggedRecord "MoveStep" d.toJson
  | walk d count => Json.taggedRecord "WalkN" (walkToJson d count)
  | turn d => Json.taggedRecord "Turn" d.toJson
  | wait ms => Json.taggedRecord "Wait" (Json.ofNat ms.toNat)
  | print text => Json.taggedRecord "Print" (Json.ofString text)

def ofJson? (mode : Json.Mode) (room : Nat) (j : Json) : Option Action := do
  let t ← j.tagged? mode room Kind.names
  let v ← t.content
  let room := room - 1
  match t.tag with
  | .step => (Direction.ofJson? t.mode room v).map .step
  | .walk => (walkOfJson? t.mode room v).map fun (d, count) => .walk d count
  | .turn => (Direction.ofJson? t.mode room v).map .turn
  | .wait => v.asWord64?.map .wait
  | .print => v.asString?.map .print

end GridScript.Action
