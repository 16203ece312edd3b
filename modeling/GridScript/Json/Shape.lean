import GridScript.Json.Reader

/-!
Reading typed values out of JSON.

A record is an object with the named members, or an array of them in order; a name is a string, or
an object with that name as its only key; a tagged value is an object with the members `type` and
`value`, or an array of a tag and a value. `room` is the number of levels that may still nest: a
container of a typed value uses one, and what is skipped uses none. In a tagged object whose value
comes first the value has to wait for its tag, and then it must be strict throughout.
-/

namespace GridScript.Json

/-- The levels of containers that a typed value may have. -/
def maxNesting : Nat := 127

def asInteger? : Json → Option Int
  | number n => n.integer?
  | _ => none

/-- An integer of the range from `lo` up to `hi`. -/
def asIntegerIn? (lo hi : Int) (j : Json) : Option Int :=
  j.asInteger?.filter fun i => lo ≤ i && i ≤ hi

/-- A natural number below a bound. -/
def asNatBelow? (bound : Nat) (j : Json) : Option Nat :=
  (j.asInteger?.bind Int.toNat?).filter (· < bound)

def asInt32? (j : Json) : Option Int := j.asIntegerIn? (-2147483648) 2147483647

def asInt64? (j : Json) : Option Int := j.asIntegerIn? (-9223372036854775808) 9223372036854775807

def asNat64? (j : Json) : Option Nat := j.asNatBelow? UInt64.size

def asWord8? (j : Json) : Option UInt8 := (j.asNatBelow? UInt8.size).map Nat.toUInt8

def asWord32? (j : Json) : Option UInt32 := (j.asNatBelow? UInt32.size).map Nat.toUInt32

def asWord64? (j : Json) : Option UInt64 := (j.asNatBelow? UInt64.size).map Nat.toUInt64

def asBool? : Json → Option Bool
  | bool b => some b
  | _ => none

def asString? : Json → Option String
  | string s => s
  | _ => none

def isNull : Json → Bool
  | null => true
  | _ => false

/-- Null, or a value. -/
def asOption? (f : Json → Option α) : Json → Option (Option α)
  | null => some none
  | j => (f j).map some

/-- An array, with what its elements are. -/
def asList? (room : Nat) (f : Nat → Json → Option α) : Json → Option (List α)
  | array vs => if room = 0 then none else vs.mapM (f (room - 1))
  | _ => none

/-- An array of so many values. -/
def asTuple? (room length : Nat) : Json → Option (List Json)
  | array vs => if room = 0 || vs.length != length then none else some vs
  | _ => none

/-! ### Records -/

/-- The members that have a key. -/
def occurrences (key : String) (ms : List (Option String × Json)) : List Json :=
  ms.filterMap fun m => if m.1 = some key then some m.2 else none

/-- What an object has at some keys. No key may be ill-formed and none of these may be repeated. -/
def lookup? (names : List String) (ms : List (Option String × Json)) : Option (List (Option Json)) :=
  if ms.all (·.1.isSome) then
    names.mapM fun name =>
      match occurrences name ms with
      | [] => some none
      | [v] => some (some v)
      | _ => none
  else none

/-- The members of a record that are there. An array may leave out members at its end. -/
def openRecord? (room : Nat) (names : List String) : Json → Option (List (Option Json))
  | object ms => if room = 0 then none else lookup? names ms
  | array vs =>
    if room = 0 || names.length < vs.length then none
    else some (vs.map some ++ List.replicate (names.length - vs.length) none)
  | _ => none

/-- The members of a record, all of them. -/
def record? (room : Nat) (names : List String) (j : Json) : Option (List Json) :=
  (j.openRecord? room names).bind (·.mapM id)

/-- The members of a record that is an object. -/
def objectRecord? (room : Nat) (names : List String) : Json → Option (List Json)
  | array _ => none
  | j => j.record? room names

/-! ### Names and tagged values -/

/-- How a value is read: straight from the text, or from a value that had to wait. -/
inductive Mode where
  | direct
  | waiting
deriving DecidableEq

/-- The value that may stand beside a name: null, and an empty object in a value that had to wait. -/
def isUnit (mode : Mode) : Json → Bool
  | null => true
  | object [] => mode == .waiting
  | _ => false

/-- What a name stands for: a string, or an object with that name as its only key. -/
def name? (mode : Mode) (room : Nat) (table : List (String × α)) : Json → Option α
  | string (some s) => table.lookup s
  | object [(some s, v)] => if room = 0 || !isUnit mode v then none else table.lookup s
  | _ => none

/-- What the tag in an array stands for: a string, or its number in the table in a value that had to
wait. -/
def tag? (mode : Mode) (table : List (String × α)) : Json → Option α
  | string (some s) => table.lookup s
  | j => if mode == .waiting then j.asNat64?.bind fun i => table[i]?.map (·.2) else none

/-- A tag, and the value beside it. -/
structure Tagged (α : Type) where
  tag : α
  content : Option Json
  mode : Mode

/-- The value comes before the type. -/
def isValueFirst (ms : List (Option String × Json)) : Bool :=
  match ms.find? fun m => m.1 = some "type" || m.1 = some "value" with
  | some m => m.1 = some "value"
  | none => false

/-- Reads the tag; `room` is what is left inside the container. -/
def tagged? (mode : Mode) (room : Nat) (table : List (String × α)) :
    Json → Option (Tagged α)
  | array [t, v] =>
    if room = 0 then none
    else (tag? mode table t).map fun tag => ⟨tag, some v, mode⟩
  | object ms =>
    if room = 0 then none
    else
      match lookup? ["type", "value"] ms with
      | some [some t, content] =>
        let waits := isValueFirst ms
        if waits && !content.all (isStrict (room - 1)) then none
        else
          (name? mode (room - 1) table t).map fun tag =>
            ⟨tag, content, if waits then .waiting else mode⟩
      | _ => none
  | _ => none

/-- A name or a tag, written. -/
def taggedRecord (tag : String) (content : Json) : Json :=
  record [("type", ofString tag), ("value", content)]

/-- Reads a whole text as a typed value. -/
def decode? (f : Nat → Json → Option α) (text : Source) : Option α :=
  (parse? text).bind (f maxNesting)

end GridScript.Json
