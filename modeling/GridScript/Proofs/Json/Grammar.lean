import GridScript.Json.Token
import GridScript.Json.Writer
import Mathlib.Tactic.Common

/-!
The grammar of JSON.

`Written j cs` says that the text `cs` stands for the value `j`. A value has many texts: white space
may stand around every value and every key, any character of a string may be escaped, and a number
may have a fraction and an exponent. What the writer makes of a value is one of its texts, on one
line and indented, if its strings are Unicode text and its numbers are integers, the only ones that
are ever written.
-/

namespace GridScript.Json

/-! ### White space -/

/-- White space, or nothing. -/
def Spaces (cs : List Char) : Prop := ∀ c ∈ cs, isSpace c = true

lemma spaces_nil : Spaces [] := fun _ h => nomatch h

lemma spaces_blank : Spaces [' '] := List.forall_mem_singleton.2 rfl

lemma spaces_newline (level : Nat) : Spaces (newline level) := by
  intro c hc
  rcases List.mem_cons.1 hc with rfl | hc
  · rfl
  · rw [List.eq_of_mem_replicate hc]
    rfl

/-! ### Numbers -/

def Digits (cs : List Char) : Prop := cs ≠ [] ∧ ∀ c ∈ cs, Text.isDigit c = true

inductive FractionText : Option (List Char) → List Char → Prop
  | absent : FractionText none []
  | point {ds : List Char} (h : Digits ds) : FractionText (some ds) ('.' :: ds)

inductive ExponentText : Option Int → List Char → Prop
  | absent : ExponentText none []
  | unsigned {e : Char} {ds : List Char} (he : e ∈ ['e', 'E']) (h : Digits ds) :
      ExponentText (some (Text.numeralValue ds)) (e :: ds)
  | plus {e : Char} {ds : List Char} (he : e ∈ ['e', 'E']) (h : Digits ds) :
      ExponentText (some (Text.numeralValue ds)) (e :: '+' :: ds)
  | minus {e : Char} {ds : List Char} (he : e ∈ ['e', 'E']) (h : Digits ds) :
      ExponentText (some (-(Text.numeralValue ds : Int))) (e :: '-' :: ds)

/-- A number: a minus sign or none, the digits before the point without needless zeros, then the
fraction and the exponent. -/
inductive NumberText : Number → List Char → Prop
  | intro {n : Number} {fraction exponent : List Char} (hfraction : FractionText n.fraction fraction)
      (hexponent : ExponentText n.exponent exponent) :
      NumberText n ((if n.negative then ['-'] else []) ++ Text.digits n.whole ++ fraction ++ exponent)

lemma writeNumber_ofInt (i : Int) :
    writeNumber (Number.ofInt i) = (if i < 0 then ['-'] else []) ++ Text.digits i.natAbs := by
  by_cases h : i < 0 <;> simp [writeNumber, Number.ofInt, h]

lemma numberText_ofInt (i : Int) : NumberText (Number.ofInt i) (writeNumber (Number.ofInt i)) := by
  have h : NumberText (Number.ofInt i) _ := .intro .absent .absent
  rw [writeNumber_ofInt]
  simpa [Number.ofInt] using h

/-! ### Strings -/

/-- The inside of a string, and the pieces it is made of. -/
inductive StringBody : List StringPiece → List Char → Prop
  | nil : StringBody [] []
  | char {c : Char} {ps : List StringPiece} {cs : List Char} (hquote : c ≠ '"') (hslash : c ≠ '\\')
      (hcontrol : ¬c.toNat < 0x20) (h : StringBody ps cs) : StringBody (.char c :: ps) (c :: cs)
  | escape {e c : Char} {ps : List StringPiece} {cs : List Char} (he : escape? e = some c)
      (h : StringBody ps cs) : StringBody (.char c :: ps) ('\\' :: e :: cs)
  | unit {a b c d : Char} {n : Nat} {ps : List StringPiece} {cs : List Char}
      (hn : hex4? a b c d = some n) (h : StringBody ps cs) :
      StringBody (.escaped n :: ps) ('\\' :: 'u' :: a :: b :: c :: d :: cs)

/-- A string in its quotes. One in which a surrogate stands alone is no Unicode text. -/
inductive StringText : Option String → List Char → Prop
  | intro {ps : List StringPiece} {cs : List Char} (h : StringBody ps cs) :
      StringText ((joinPieces ps).map String.ofList) ('"' :: cs ++ ['"'])

/-- What a character of a string is written as, before surrogates are paired. -/
def pieceOf (c : Char) : StringPiece :=
  if c.toNat < 0x20 ∧ c ∉ ['\x08', '\x0c', '\n', '\r', '\t'] then .escaped c.toNat else .char c

lemma hex4?_control {n : Nat} (h : n < 0x20) :
    hex4? '0' '0' (hexDigit (n / 16)) (hexDigit (n % 16)) = some n := by
  have : ∀ n < 0x20, hex4? '0' '0' (hexDigit (n / 16)) (hexDigit (n % 16)) = some n := by decide
  exact this n h

lemma StringBody.escapeChar {ps : List StringPiece} {cs : List Char} (h : StringBody ps cs)
    (c : Char) : StringBody (pieceOf c :: ps) (escapeChar c ++ cs) := by
  unfold Json.escapeChar
  split
  case h_8 hquote hslash h8 h12 hn hr ht =>
    split
    · rename_i hcontrol
      rw [pieceOf, if_pos ⟨hcontrol, by simp_all⟩]
      exact .unit (hex4?_control hcontrol) h
    · rename_i hcontrol
      rw [pieceOf, if_neg fun h => hcontrol h.1]
      exact .char hquote hslash hcontrol h
  all_goals exact .escape rfl h

lemma stringBody_escaped (cs : List Char) : StringBody (cs.map pieceOf) (cs.flatMap escapeChar) := by
  induction cs with
  | nil => exact .nil
  | cons c cs ih => exact ih.escapeChar c

lemma joinPieces_pieceOf (c : Char) (ps : List StringPiece) :
    joinPieces (pieceOf c :: ps) = (joinPieces ps).map (c :: ·) := by
  unfold pieceOf
  split
  · rename_i h
    have hhigh : isHighSurrogate c.toNat = false := by
      simp only [isHighSurrogate, Bool.and_eq_false_iff, decide_eq_false_iff_not]
      omega
    have hlow : isLowSurrogate c.toNat = false := by
      simp only [isLowSurrogate, Bool.and_eq_false_iff, decide_eq_false_iff_not]
      omega
    -- an escape looks at the piece after it, but only a surrogate takes it
    rcases ps with _ | ⟨p, ps⟩
    · simp [joinPieces, hhigh, hlow]
    · cases p <;> simp [joinPieces, hhigh, hlow]
  · simp [joinPieces]

lemma joinPieces_map_pieceOf (cs : List Char) : joinPieces (cs.map pieceOf) = some cs := by
  induction cs with
  | nil => rfl
  | cons c cs ih => rw [List.map_cons, joinPieces_pieceOf, ih, Option.map_some]

lemma stringText_writeString (text : String) :
    StringText (some text) (writeString (some text)) := by
  have h : StringText _ _ := .intro (stringBody_escaped text.toList)
  rwa [joinPieces_map_pieceOf, Option.map_some, String.ofList_toList] at h

/-! ### Values -/

/-- A key with the white space around it. -/
inductive KeyText : Option String → List Char → Prop
  | intro {key : Option String} {cs before after : List Char} (h : StringText key cs)
      (hbefore : Spaces before) (hafter : Spaces after) : KeyText key (before ++ cs ++ after)

/-- A member of an object with the texts of its key and its value. -/
structure Member where
  key : Option String
  value : Json
  keyText : List Char
  valueText : List Char

namespace Member

def field (m : Member) : Option String × Json := (m.key, m.value)

def text (m : Member) : List Char := m.keyText ++ ':' :: m.valueText

end Member

inductive Written : Json → List Char → Prop
  | null : Written null ['n', 'u', 'l', 'l']
  | bool (b : Bool) : Written (bool b) (writeBool b)
  | number {n : Number} {cs : List Char} (h : NumberText n cs) : Written (number n) cs
  | string {s : Option String} {cs : List Char} (h : StringText s cs) : Written (string s) cs
  | array {es : List (Json × List Char)} {ws : List Char} (h : ∀ e ∈ es, Written e.1 e.2)
      (hws : Spaces ws) :
      Written (array (es.map Prod.fst)) ('[' :: List.intercalate [','] (es.map Prod.snd) ++ ws ++ [']'])
  | object {ms : List Member} {ws : List Char} (hkeys : ∀ m ∈ ms, KeyText m.key m.keyText)
      (h : ∀ m ∈ ms, Written m.value m.valueText) (hws : Spaces ws) :
      Written (object (ms.map Member.field))
        ('\x7b' :: List.intercalate [','] (ms.map Member.text) ++ ws ++ ['\x7d'])
  | spaced {j : Json} {cs before after : List Char} (h : Written j cs) (hbefore : Spaces before)
      (hafter : Spaces after) : Written j (before ++ cs ++ after)

lemma written_ofNat (n : Nat) : (ofNat n).Written (Text.digits n) := by
  have h := numberText_ofInt n
  have hsign : ¬(n : Int) < 0 := by omega
  rw [writeNumber_ofInt, if_neg hsign] at h
  exact .number h

end GridScript.Json
