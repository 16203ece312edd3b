import GridScript.Script.Statement
import GridScript.Text.Blank
import Mathlib.Data.Nat.Digits.Defs

/-!
The grammar of statements.

A production relates a text to what it stands for. `Gap` is written where a gap may be left out and
`Space` where it has to be there; both are made of spaces and tabs only. The white space of Unicode
matters in two places, the ends of a condition and of a printed message, and there `Trims` says what
is left.
-/

namespace GridScript.Script.Grammar

/-! ### Characters -/

def IsGapChar (c : Char) : Prop := c = ' ' ∨ c = '\t'

def IsDigit (c : Char) : Prop := '0' ≤ c ∧ c ≤ '9'

def IsLetter (c : Char) : Prop := ('a' ≤ c ∧ c ≤ 'z') ∨ ('A' ≤ c ∧ c ≤ 'Z')

def IsNameStart (c : Char) : Prop := IsLetter c ∨ c = '_'

def IsNameChar (c : Char) : Prop := IsLetter c ∨ IsDigit c ∨ c = '_'

def IsQuote (c : Char) : Prop := c = '"' ∨ c = '\''

/-! ### Words -/

def Gap (b : List Char) : Prop := ∀ c ∈ b, IsGapChar c

def Space (b : List Char) : Prop := b ≠ [] ∧ Gap b

/-- The text does not go on with a character of some kind. -/
def Stops (P : Char → Prop) (cs : List Char) : Prop := ∀ c, cs.head? = some c → ¬P c

/-- The name of a variable. -/
inductive Name : List Char → Prop where
  | mk {c : Char} {cs : List Char} (first : IsNameStart c) (rest : ∀ d ∈ cs, IsNameChar d) :
    Name (c :: cs)

/-- The number that a run of digits denotes, the last digit being the lowest. -/
def denotes (ds : List Char) : Nat := Nat.ofDigits 10 (ds.reverse.map fun c => c.toNat - '0'.toNat)

/-- A number in digits, leading zeros allowed. -/
inductive Numeral : List Char → Nat → Prop where
  | mk {ds : List Char} (ne : ds ≠ []) (digits : ∀ c ∈ ds, IsDigit c) : Numeral ds (denotes ds)

/-- A numeral that one plus sign may precede. -/
inductive Literal : List Char → Nat → Prop where
  | plain {ds : List Char} {n : Nat} (h : Numeral ds n) : Literal ds n
  | plus {ds : List Char} {n : Nat} (h : Numeral ds n) : Literal ('+' :: ds) n

/-- A word for a direction, in any case of its letters. -/
def DirectionWord (w : List Char) (d : Direction) : Prop :=
  ∃ spelling, (spelling, d) ∈ Direction.aliases ∧ w.map Char.toLower = spelling.toList

/-- The sign of a comparison. -/
def Operator (o : List Char) (op : Comparison) : Prop :=
  ∃ token, (token, op) ∈ Comparison.tokens ∧ o = token.toList

/-- The second text is the first without the blanks at its ends. -/
structure Trims (cs t : List Char) : Prop where
  split : ∃ a z, cs = a ++ t ++ z ∧ (∀ c ∈ a, Text.isBlank c = true) ∧
    ∀ c ∈ z, Text.isBlank c = true
  head : ∀ c, t.head? = some c → Text.isBlank c = false
  last : ∀ c, t.getLast? = some c → Text.isBlank c = false

/-! ### Messages -/

/-- One quote is taken off the front, if there is one, and then one off the end. -/
inductive Unquotes : List Char → List Char → Prop where
  | intro {t u m : List Char} (front : (∃ q, IsQuote q ∧ t = q :: u) ∨ (Stops IsQuote t ∧ t = u))
    (back : (∃ q, IsQuote q ∧ u = m ++ [q]) ∨ (Stops IsQuote u.reverse ∧ u = m)) : Unquotes t m

/-- A message in parentheses loses these, with the blanks around and inside them, and every message
its quotes. -/
inductive Message : List Char → List Char → Prop where
  | bare {raw t m : List Char} (h : Trims raw t) (hno : ∀ u, t ≠ '(' :: (u ++ [')']))
    (hm : Unquotes t m) : Message raw m
  | parens {raw u t m : List Char} (h : Trims raw ('(' :: (u ++ [')']))) (hu : Trims u t)
    (hm : Unquotes t m) : Message raw m

/-- What a message may begin with right after its keyword. -/
def OpensMessage (c : Char) : Prop := IsGapChar c ∨ c = '(' ∨ IsQuote c

/-! ### Statements -/

inductive Cmd (limit : UInt32) : List Char → Command → Prop where
  | move {b w e : List Char} {d : Direction} (hb : Space b) (hw : DirectionWord w d) (he : Gap e) :
    Cmd limit ("move".toList ++ b ++ w ++ e) (.move d)
  | turn {b w e : List Char} {d : Direction} (hb : Space b) (hw : DirectionWord w d) (he : Gap e) :
    Cmd limit ("turn".toList ++ b ++ w ++ e) (.turn d)
  | walk {b n b' w e : List Char} {count : UInt32} {d : Direction} (hb : Space b)
    (hn : Literal n count.toNat) (hlimit : count ≤ limit) (hb' : Space b')
    (hw : DirectionWord w d) (he : Gap e) :
    Cmd limit ("walk".toList ++ b ++ n ++ b' ++ w ++ e) (.walk d count)
  | waitDefault {e : List Char} (he : Gap e) : Cmd limit ("wait".toList ++ e) (.wait none)
  | wait {b n e : List Char} {ms : UInt64} (hb : Gap b) (hn : Literal n ms.toNat) (he : Gap e)
    (keyword : Stops IsNameChar (b ++ n)) :
    Cmd limit ("wait".toList ++ b ++ n ++ e) (.wait (some ms))
  | print {c : Char} {raw m : List Char} (hc : OpensMessage c) (hm : Message (c :: raw) m) :
    Cmd limit ("print".toList ++ [c] ++ raw) (.print (String.ofList m))
  | clear {e : List Char} (he : Gap e) : Cmd limit ("clear".toList ++ e) .clear
  | stop {e : List Char} (he : Gap e) : Cmd limit ("stop".toList ++ e) .clear
  | call {w : List Char} {d : Direction} (hw : DirectionWord w d) :
    Cmd limit ("player.move".toList ++ w ++ "()".toList) (.move d)

/-- A condition without blanks at its ends. -/
inductive Cond : List Char → Condition → Prop where
  | mk {x b o b' ds : List Char} {op : Comparison} {n : Nat} (hx : Name x) (hb : Gap b)
    (ho : Operator o op) (hb' : Gap b') (hn : Numeral ds n) (hlt : n < 2 ^ 63) :
    Cond (x ++ b ++ o ++ b' ++ ds) ⟨String.ofList x, op, n⟩

/-- A statement under a condition. The condition ends at the first colon; its body is a command. -/
inductive If (limit : UInt32) : List Char → Statement → Prop where
  | mk {g : Char} {front t b body : List Char} {condition : Condition} {c : Command}
    (hg : IsGapChar g) (hcolon : ':' ∉ front) (ht : Trims (g :: front) t) (hc : Cond t condition)
    (hb : Gap b) (hbody : Cmd limit body c) :
    If limit ("if".toList ++ [g] ++ front ++ [':'] ++ b ++ body) (.guarded condition (.command c))

inductive LoopBody (limit : UInt32) : List Char → Statement → Prop where
  | guarded {cs : List Char} {st : Statement} (h : If limit cs st) : LoopBody limit cs st
  | command {cs : List Char} {c : Command} (h : Cmd limit cs c) : LoopBody limit cs (.command c)

inductive For (limit : UInt32) : List Char → Statement → Prop where
  | mk {b₁ x b₂ b₃ b₄ b₅ ds b₆ b₇ b₈ body : List Char} {count : UInt32} {st : Statement}
    (h₁ : Space b₁) (hx : Name x) (h₂ : Space b₂) (h₃ : Space b₃) (h₄ : Gap b₄) (h₅ : Gap b₅)
    (hn : Numeral ds count.toNat) (hlimit : count ≤ limit) (h₆ : Gap b₆) (h₇ : Gap b₇) (h₈ : Gap b₈)
    (hbody : LoopBody limit body st) :
    For limit
      ("for".toList ++ b₁ ++ x ++ b₂ ++ "in".toList ++ b₃ ++ "range".toList ++ b₄ ++ ['('] ++ b₅ ++
        ds ++ b₆ ++ [')'] ++ b₇ ++ [':'] ++ b₈ ++ body)
      (.loop (String.ofList x) count st)

/-- A statement on a line of its own. -/
inductive Line (limit : UInt32) : List Char → Statement → Prop where
  | loop {cs : List Char} {st : Statement} (h : For limit cs st) : Line limit cs st
  | guarded {cs : List Char} {st : Statement} (h : If limit cs st) : Line limit cs st
  | command {cs : List Char} {c : Command} (h : Cmd limit cs c) : Line limit cs (.command c)

/-! ### Headers -/

/-- What a statement under a condition begins with, up to its body. -/
inductive IfHead : List Char → Condition → Prop where
  | mk {g : Char} {front t b : List Char} {condition : Condition} (hg : IsGapChar g)
    (hcolon : ':' ∉ front) (ht : Trims (g :: front) t) (hc : Cond t condition) (hb : Gap b) :
    IfHead ("if".toList ++ [g] ++ front ++ [':'] ++ b) condition

/-- What a loop begins with, up to its body. -/
inductive ForHead (limit : UInt32) : List Char → String → UInt32 → Prop where
  | mk {b₁ x b₂ b₃ b₄ b₅ ds b₆ b₇ b₈ : List Char} {count : UInt32} (h₁ : Space b₁) (hx : Name x)
    (h₂ : Space b₂) (h₃ : Space b₃) (h₄ : Gap b₄) (h₅ : Gap b₅) (hn : Numeral ds count.toNat)
    (hlimit : count ≤ limit) (h₆ : Gap b₆) (h₇ : Gap b₇) (h₈ : Gap b₈) :
    ForHead limit
      ("for".toList ++ b₁ ++ x ++ b₂ ++ "in".toList ++ b₃ ++ "range".toList ++ b₄ ++ ['('] ++ b₅ ++
        ds ++ b₆ ++ [')'] ++ b₇ ++ [':'] ++ b₈)
      (String.ofList x) count

end GridScript.Script.Grammar
