/-!
Decimal numerals.

`digits` writes a natural number and `natural?` reads one; `unsigned?` also takes one leading plus
sign. Only the ten ASCII digits count. The main statement is `natural?_digits`.
-/

namespace GridScript.Text

def isDigit (c : Char) : Bool := '0' ≤ c && c ≤ '9'

def digitChar (n : Nat) : Char := Char.ofNat (48 + n % 10)

def digitValue (c : Char) : Nat := c.toNat - 48

/-- The number that a run of digits denotes. -/
def numeralValue (cs : List Char) : Nat :=
  cs.foldl (fun n c => 10 * n + digitValue c) 0

/-- Writes a number without leading zeros. -/
def digits (n : Nat) : List Char :=
  if n < 10 then [digitChar n] else digits (n / 10) ++ [digitChar n]

/-- Reads a text that is digits and nothing else. -/
def natural? (cs : List Char) : Option Nat :=
  if !cs.isEmpty && cs.all isDigit then some (numeralValue cs) else none

/-- Reads digits that one plus sign may precede. -/
def unsigned? : List Char → Option Nat
  | '+' :: cs => natural? cs
  | cs => natural? cs

/-- Reads digits that one sign may precede. -/
def signed? : List Char → Option Int
  | '-' :: cs => (natural? cs).map fun n => -(n : Int)
  | cs => (unsigned? cs).map Int.ofNat

/-- Writes an integer, with a minus sign if it is negative. -/
def integerDigits (i : Int) : List Char :=
  if i < 0 then '-' :: digits i.natAbs else digits i.natAbs

def natText (n : Nat) : String := String.ofList (digits n)

def intText (i : Int) : String := String.ofList (integerDigits i)

/-- The number read, if it has at most 8 bits. -/
def word8? (n : Nat) : Option UInt8 := if n < UInt8.size then some n.toUInt8 else none

/-- The number read, if it has at most 32 bits. -/
def word32? (n : Nat) : Option UInt32 := if n < UInt32.size then some n.toUInt32 else none

/-- The number read, if it has at most 64 bits. -/
def word64? (n : Nat) : Option UInt64 := if n < UInt64.size then some n.toUInt64 else none

theorem digitChar_cases (n : Nat) :
    isDigit (digitChar n) = true ∧ digitValue (digitChar n) = n % 10 := by
  have h : n % 10 < 10 := Nat.mod_lt _ (by decide)
  unfold digitChar
  generalize n % 10 = k at h
  have : ∀ k < 10, isDigit (Char.ofNat (48 + k)) = true ∧ digitValue (Char.ofNat (48 + k)) = k := by
    decide
  exact this k h

theorem numeralValue_concat (cs : List Char) (c : Char) :
    numeralValue (cs ++ [c]) = 10 * numeralValue cs + digitValue c := by
  simp [numeralValue, List.foldl_append]

theorem digits_ne_nil (n : Nat) : digits n ≠ [] := by
  unfold digits
  split <;> simp

theorem isDigit_of_mem_digits {n : Nat} {c : Char} (h : c ∈ digits n) : isDigit c = true := by
  fun_induction digits n with
  | case1 n _ => simp at h; exact h ▸ (digitChar_cases n).1
  | case2 n _ ih =>
    rcases List.mem_append.1 h with h | h
    · exact ih h
    · simp at h; exact h ▸ (digitChar_cases n).1

theorem numeralValue_digits (n : Nat) : numeralValue (digits n) = n := by
  fun_induction digits n with
  | case1 n h => simp [numeralValue, (digitChar_cases n).2]; omega
  | case2 n h ih => rw [numeralValue_concat, ih, (digitChar_cases n).2]; omega

/-- Reading undoes writing. -/
theorem natural?_digits (n : Nat) : natural? (digits n) = some n := by
  have h : (digits n).all isDigit = true := List.all_eq_true.2 fun _ => isDigit_of_mem_digits
  simp [natural?, digits_ne_nil, h, numeralValue_digits]

end GridScript.Text
