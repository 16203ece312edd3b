import GridScript.Text.Decimal

/-!
JSON values.

A number is kept as it was written, so that `1` and `1.0` differ. A string is kept as `none` when it
is not Unicode text (a lone surrogate, or ill-formed bytes); such a string may be skipped and never
read. An object keeps its members in order, repeated keys included.
-/

namespace GridScript

/-- A number as it was written: sign, digits before the point, digits after it, power of ten. -/
structure Json.Number where
  negative : Bool
  whole : Nat
  fraction : Option (List Char)
  exponent : Option Int
deriving DecidableEq

inductive Json where
  | null
  | bool (b : Bool)
  | number (n : Json.Number)
  | string (text : Option String)
  | array (elements : List Json)
  | object (members : List (Option String × Json))

namespace Json

/-- The integer a number denotes, if it is written as one. Minus zero is not. -/
def Number.integer? (n : Number) : Option Int :=
  if n.fraction.isSome || n.exponent.isSome || (n.negative && n.whole == 0) then none
  else some (if n.negative then -(n.whole : Int) else n.whole)

def Number.ofInt (i : Int) : Number := ⟨i < 0, i.natAbs, none, none⟩

/-- The number does not overflow when it is read as a double. -/
def Number.isFinite (n : Number) : Bool :=
  (Text.Decimal.ofDigits (Text.digits n.whole) (n.fraction.getD []) (n.exponent.getD 0)).isFinite

def ofInt (i : Int) : Json := number (Number.ofInt i)

def ofNat (n : Nat) : Json := ofInt n

def ofString (s : String) : Json := string (some s)

def ofOption (f : α → Json) : Option α → Json
  | none => null
  | some a => f a

def ofList (f : α → Json) (as : List α) : Json := array (as.map f)

/-- An object with distinct, well-formed keys. -/
def record (members : List (String × Json)) : Json :=
  object (members.map fun m => (some m.1, m.2))

@[simp] theorem Number.integer?_ofInt (i : Int) : (Number.ofInt i).integer? = some i := by
  have hzero : (decide (i < 0) && i.natAbs == 0) = false := by
    by_cases h : i < 0
    · have : i.natAbs ≠ 0 := by omega
      rw [beq_false_of_ne this, Bool.and_false]
    · rw [decide_eq_false h, Bool.false_and]
  have hvalue : (if decide (i < 0) = true then -(i.natAbs : Int) else (i.natAbs : Int)) = i := by
    by_cases h : i < 0
    · rw [if_pos (decide_eq_true h)]
      omega
    · rw [if_neg (by rw [decide_eq_false h]; exact Bool.false_ne_true)]
      omega
  simp only [Number.ofInt, Number.integer?, Option.isSome_none, Bool.false_or, hzero,
    Bool.false_eq_true, if_false]
  exact congrArg some hvalue

/-! ### Strict values -/

mutual

/-- Every string is Unicode text, every number is finite, and at most `room` levels nest. -/
def isStrict : Nat → Json → Bool
  | _, null => true
  | _, bool _ => true
  | _, number n => n.isFinite
  | _, string s => s.isSome
  | room, array vs => decide (0 < room) && allStrict (room - 1) vs
  | room, object ms => decide (0 < room) && membersStrict (room - 1) ms

def allStrict : Nat → List Json → Bool
  | _, [] => true
  | room, v :: vs => isStrict room v && allStrict room vs

def membersStrict : Nat → List (Option String × Json) → Bool
  | _, [] => true
  | room, (key, v) :: ms => key.isSome && isStrict room v && membersStrict room ms

end

end Json

end GridScript
