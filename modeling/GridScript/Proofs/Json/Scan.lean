import GridScript.Json.Reader
import GridScript.Proofs.Json.Grammar

/-!
The tokens of a text.

A text spells some tokens if the scan finds them at its front, whatever follows, unless what follows
would go on with a number. The text of a number, a string or a sign spells that one token.
-/

namespace GridScript

namespace Text

lemma head?_digits_of_pos {n : Nat} (h : 0 < n) : (digits n).head? ≠ some '0' := by
  fun_induction digits n with
  | case1 n hlt =>
    have hdigit : ∀ k < 10, 0 < k → digitChar k ≠ '0' := by decide
    simpa using hdigit n hlt h
  | case2 n hle ih =>
    rw [List.head?_append, Option.or_of_isSome (by simpa using digits_ne_nil _)]
    exact ih (by omega)

end Text

namespace Json

/-! ### Numbers -/

/-- No run of digits goes on with the text. -/
def EndsDigits (s : Source) : Prop := ∀ c, s.head? = some (some c) → Text.isDigit c = false

/-- The text does not go on with a number. -/
def Delimits (s : Source) : Prop :=
  ∀ c, s.head? = some (some c) → Text.isDigit c = false ∧ c ≠ '.' ∧ c ≠ 'e' ∧ c ≠ 'E'

lemma delimits_nil : Delimits [] := by
  intro c hc
  cases hc

lemma Delimits.endsDigits {s : Source} (h : Delimits s) : EndsDigits s := fun c hc => (h c hc).1

lemma digitRun_append {ds : List Char} (hds : ∀ c ∈ ds, Text.isDigit c = true) {rest : Source}
    (hrest : EndsDigits rest) : digitRun (ds.map some ++ rest) = (ds, rest) := by
  induction ds with
  | nil =>
    rcases rest with _ | ⟨_ | c, rest⟩
    · rfl
    · rfl
    · simp [digitRun, hrest c rfl]
  | cons d ds ih =>
    obtain ⟨hd, hds⟩ := List.forall_mem_cons.1 hds
    simp [digitRun, hd, ih hds]

lemma wholePart_digits (n : Nat) {rest : Source} (hrest : EndsDigits rest) :
    wholePart ((Text.digits n).map some ++ rest) = some (n, rest) := by
  have hrun := digitRun_append (fun c hc => Text.isDigit_of_mem_digits (n := n) hc) hrest
  have hzero : ((Text.digits n).head? == some '0' && decide (1 < (Text.digits n).length)) = false := by
    rcases Nat.eq_zero_or_pos n with rfl | hpos
    · decide +kernel
    · rw [beq_false_of_ne (Text.head?_digits_of_pos hpos), Bool.false_and]
  simp [wholePart, hrun, Text.digits_ne_nil, hzero, Text.numeralValue_digits]

lemma exponentDigits_append {ds : List Char} (hds : Digits ds) {rest : Source}
    (hrest : Delimits rest) :
    exponentDigits (ds.map some ++ rest) = some (Text.numeralValue ds, rest) := by
  simp [exponentDigits, digitRun_append hds.2 hrest.endsDigits, hds.1]

lemma Digits.exists_cons {ds : List Char} (h : Digits ds) :
    ∃ d ds', ds = d :: ds' ∧ Text.isDigit d = true := by
  obtain ⟨d, ds', rfl⟩ := List.exists_cons_of_ne_nil h.1
  exact ⟨d, ds', rfl, h.2 d List.mem_cons_self⟩

lemma exponentPart_append {e : Option Int} {cs : List Char} (h : ExponentText e cs) {rest : Source}
    (hrest : Delimits rest) : exponentPart (cs.map some ++ rest) = some (e, rest) := by
  cases h with
  | absent =>
    show exponentPart rest = some (none, rest)
    unfold exponentPart
    split
    · rename_i c cs
      obtain ⟨-, -, he, hE⟩ := hrest c rfl
      simp [he, hE]
    · rfl
  | @unsigned e ds he hds =>
    have hmark : (e == 'e' || e == 'E') = true := by simpa using he
    have hvalue := exponentDigits_append hds hrest
    obtain ⟨d, ds, rfl, hd⟩ := hds.exists_cons
    -- a digit is neither of the signs that an exponent may begin with
    have hminus : d ≠ '-' := by rintro rfl; cases hd
    have hplus : d ≠ '+' := by rintro rfl; cases hd
    simp only [List.map_cons, List.cons_append] at hvalue ⊢
    simp [exponentPart, hmark, hminus, hplus, hvalue]
  | plus he hds | minus he hds =>
    simp only [List.mem_cons, List.not_mem_nil, or_false] at he
    have hvalue := exponentDigits_append hds hrest
    rcases he with rfl | rfl <;> simp [exponentPart, hvalue]

/-- An exponent, or what comes after a number without one, goes on with no digit and no point. -/
lemma ExponentText.head {e : Option Int} {cs : List Char} (h : ExponentText e cs) {rest : Source}
    (hrest : Delimits rest) {c : Char} (hc : (cs.map some ++ rest).head? = some (some c)) :
    Text.isDigit c = false ∧ c ≠ '.' := by
  cases h with
  | absent => exact ⟨(hrest c hc).1, (hrest c hc).2.1⟩
  | unsigned he | plus he | minus he =>
    simp only [List.mem_cons, List.not_mem_nil, or_false] at he
    rcases he with rfl | rfl <;> cases hc <;> decide

lemma fractionPart_append {f : Option (List Char)} {cs : List Char} (h : FractionText f cs)
    {rest : Source}
    (hrest : ∀ c, rest.head? = some (some c) → Text.isDigit c = false ∧ c ≠ '.') :
    fractionPart (cs.map some ++ rest) = some (f, rest) := by
  cases h with
  | absent =>
    show fractionPart rest = some (none, rest)
    unfold fractionPart
    split
    · exact absurd rfl (hrest '.' rfl).2
    · rfl
  | point hds =>
    simp [fractionPart, digitRun_append hds.2 fun c hc => (hrest c hc).1, hds.1]

lemma FractionText.endsDigits {f : Option (List Char)} {cs : List Char} (h : FractionText f cs)
    {rest : Source} (hrest : EndsDigits rest) : EndsDigits (cs.map some ++ rest) := by
  cases h with
  | absent => exact hrest
  | point =>
    rintro c hc
    cases hc
    decide

/-- A character that a number may begin with. -/
def OpensNumber (c : Char) : Prop := c = '-' ∨ Text.isDigit c = true

lemma next?_of_opensNumber {c : Char} (h : OpensNumber c) (cs : Source) :
    Token.next? (some c :: cs) = (scanNumber (some c :: cs)).map fun (n, rest) => (.number n, rest) := by
  unfold Token.next?
  split
  case h_11 => rfl
  all_goals
    rename_i heq
    simp only [List.cons.injEq, Option.some.injEq] at heq
    rw [heq.1] at h
    exact absurd h (by unfold OpensNumber; decide)

lemma NumberText.exists_cons {n : Number} {cs : List Char} (h : NumberText n cs) :
    ∃ c cs', cs = c :: cs' ∧ OpensNumber c := by
  obtain @⟨fraction, exponent, -, -⟩ := h
  obtain ⟨d, ds, hds⟩ := List.exists_cons_of_ne_nil (Text.digits_ne_nil n.whole)
  have hd : Text.isDigit d = true := Text.isDigit_of_mem_digits (hds ▸ List.mem_cons_self)
  cases n.negative
  · exact ⟨d, ds ++ (fraction ++ exponent), by simp [hds], .inr hd⟩
  · exact ⟨'-', d :: ds ++ (fraction ++ exponent), by simp [hds], .inl rfl⟩

lemma not_isSpace_of_opensNumber {c : Char} (h : OpensNumber c) : isSpace c = false := by
  rw [Bool.eq_false_iff]
  intro hspace
  simp only [isSpace, Bool.or_eq_true, beq_iff_eq] at hspace
  rcases hspace with ((rfl | rfl) | rfl) | rfl <;> exact absurd h (by unfold OpensNumber; decide)

/-- The first digit tells a number from one with a sign. -/
lemma scanNumber_digits (n : Nat) (rest : Source) :
    scanNumber ((Text.digits n).map some ++ rest) =
      unsignedNumber false ((Text.digits n).map some ++ rest) := by
  obtain ⟨d, ds, hds⟩ := List.exists_cons_of_ne_nil (Text.digits_ne_nil n)
  have hsign : d ≠ '-' := by
    rintro rfl
    cases Text.isDigit_of_mem_digits (n := n) (hds ▸ List.mem_cons_self)
  simp [hds, scanNumber, hsign]

lemma scanNumber_append {n : Number} {cs : List Char} (h : NumberText n cs) {rest : Source}
    (hrest : Delimits rest) : scanNumber (cs.map some ++ rest) = some (n, rest) := by
  obtain @⟨fraction, exponent, hfraction, hexponent⟩ := h
  have hhead := fun c hc => hexponent.head hrest (c := c) hc
  have hwhole := wholePart_digits n.whole (hfraction.endsDigits fun c hc => (hhead c hc).1)
  have hparts : unsignedNumber n.negative
      ((Text.digits n.whole).map some ++ (fraction.map some ++ (exponent.map some ++ rest))) =
        some (n, rest) := by
    simp [unsignedNumber, hwhole, fractionPart_append hfraction hhead,
      exponentPart_append hexponent hrest]
  simp only [List.map_append, List.append_assoc]
  cases hnegative : n.negative
  · rw [hnegative] at hparts
    simpa [scanNumber_digits] using hparts
  · rw [hnegative] at hparts
    simpa [scanNumber] using hparts

/-! ### Strings -/

/-- An escape of one letter is not one of a number. -/
lemma stringPieces_escape {e c : Char} (he : escape? e = some c) (rest : Source) :
    stringPieces (some '\\' :: some e :: rest) =
      (stringPieces rest).map fun (ps, rest) => (.char c :: ps, rest) := by
  rw [stringPieces]
  · rw [he, Option.map_eq_bind]
    rfl
  · rintro _ _ _ _ _ - rfl
    cases he

lemma stringPieces_unit {a b c d : Char} {n : Nat} (hn : hex4? a b c d = some n) (rest : Source) :
    stringPieces (some '\\' :: some 'u' :: some a :: some b :: some c :: some d :: rest) =
      (stringPieces rest).map fun (ps, rest) => (.escaped n :: ps, rest) := by
  rw [stringPieces, hn, Option.map_eq_bind]
  rfl

lemma stringPieces_plain {c : Char} (hquote : c ≠ '"') (hslash : c ≠ '\\') (h : ¬c.toNat < 0x20)
    (rest : Source) :
    stringPieces (some c :: rest) =
      (stringPieces rest).map fun (ps, rest) => (.char c :: ps, rest) := by
  rw [stringPieces]
  · simp [h, hslash]
  · simpa using hquote
  all_goals simp [hslash]

lemma stringPieces_append {ps : List StringPiece} {cs : List Char} (h : StringBody ps cs)
    (rest : Source) : stringPieces (cs.map some ++ some '"' :: rest) = some (ps, rest) := by
  induction h with
  | nil => simp [stringPieces]
  | char hquote hslash hcontrol _ ih =>
    rw [List.map_cons, List.cons_append, stringPieces_plain hquote hslash hcontrol, ih]
    rfl
  | escape he _ ih =>
    simp only [List.map_cons, List.cons_append, stringPieces_escape he, ih, Option.map_some]
  | unit hn _ ih =>
    simp only [List.map_cons, List.cons_append, stringPieces_unit hn, ih, Option.map_some]

/-! ### Texts -/

/-- The scan finds these tokens in a text. -/
def Scans (s : Source) (ts : List Token) : Prop :=
  ∀ fuel, s.length ≤ fuel → Token.scanWithin fuel s = some ts

lemma scans_nil : Scans [] [] := by
  intro fuel _
  cases fuel <;> rfl

lemma Scans.space {c : Char} (hc : isSpace c = true) {s : Source} {ts : List Token}
    (h : Scans s ts) : Scans (some c :: s) ts := by
  intro fuel hfuel
  obtain ⟨n, rfl⟩ : ∃ n, fuel = n + 1 := ⟨fuel - 1, by simp at hfuel; omega⟩
  simpa [Token.scanWithin, hc] using h n (by simpa using hfuel)

lemma Scans.token {c : Char} (hc : isSpace c = false) {s rest : Source} {t : Token}
    {ts : List Token} (hnext : Token.next? (some c :: s) = some (t, rest))
    (hlen : rest.length ≤ s.length) (h : Scans rest ts) : Scans (some c :: s) (t :: ts) := by
  intro fuel hfuel
  obtain ⟨n, rfl⟩ : ∃ n, fuel = n + 1 := ⟨fuel - 1, by simp at hfuel; omega⟩
  have hrest : Token.scanWithin n rest = some ts := h n (by simp at hfuel; omega)
  simp [Token.scanWithin, hc, hnext, hrest]

/-- A text spells some tokens: the scan finds them at its front, and then those of what follows,
unless that goes on with a number. -/
def Spells (cs : List Char) (ts : List Token) : Prop :=
  ∀ (rest : Source) (us : List Token), Delimits rest → Scans rest us →
    Scans (cs.map some ++ rest) (ts ++ us)

/-- No number goes on with this text, and none goes on after it unless it does with what follows. -/
def Ends (cs : List Char) : Prop := ∀ rest, Delimits rest → Delimits (cs.map some ++ rest)

lemma ends_nil : Ends [] := fun _ h => h

lemma ends_cons {c : Char} (h : c ∈ [',', ':', ']', '\x7d', ' ', '\t', '\n', '\r'])
    (cs : List Char) : Ends (c :: cs) := by
  intro rest _ d hd
  obtain rfl : c = d := by simpa using hd
  simp only [List.mem_cons, List.not_mem_nil, or_false] at h
  rcases h with rfl | rfl | rfl | rfl | rfl | rfl | rfl | rfl <;> decide

lemma Spaces.ends {ws cs : List Char} (h : Spaces ws) (hcs : Ends cs) : Ends (ws ++ cs) := by
  cases ws with
  | nil => exact hcs
  | cons w ws =>
    have hw : isSpace w = true := h w List.mem_cons_self
    exact ends_cons (by simp only [isSpace, Bool.or_eq_true, beq_iff_eq] at hw; simp; tauto) _

lemma spells_nil : Spells [] [] := fun _ _ _ h => h

lemma Spells.append {cs ds : List Char} {ts us : List Token} (h : Spells cs ts)
    (h' : Spells ds us) (hends : Ends ds) : Spells (cs ++ ds) (ts ++ us) := by
  intro rest vs hrest hscans
  rw [List.map_append, List.append_assoc, List.append_assoc]
  exact h _ _ (hends rest hrest) (h' rest vs hrest hscans)

lemma Spells.space {c : Char} (hc : isSpace c = true) {cs : List Char} {ts : List Token}
    (h : Spells cs ts) : Spells (c :: cs) ts :=
  fun rest us hrest hscans => (h rest us hrest hscans).space hc

lemma Spells.spaces {ws : List Char} (hws : Spaces ws) {cs : List Char} {ts : List Token}
    (h : Spells cs ts) : Spells (ws ++ cs) ts := by
  induction ws with
  | nil => exact h
  | cons w ws ih =>
    obtain ⟨hw, hws⟩ := List.forall_mem_cons.1 hws
    exact (ih hws).space hw

/-- The tokens of one character. -/
def signs : List (Char × Token) :=
  [('[', .openArray), (']', .closeArray), ('\x7b', .openObject), ('\x7d', .closeObject),
    (',', .comma), (':', .colon)]

lemma Spells.sign {c : Char} {t : Token} (hsign : (c, t) ∈ signs) {cs : List Char}
    {ts : List Token} (h : Spells cs ts) : Spells (c :: cs) (t :: ts) := by
  obtain ⟨hspace, hnext⟩ : isSpace c = false ∧ ∀ s, Token.next? (some c :: s) = some (t, s) := by
    simp only [signs, List.mem_cons, Prod.mk.injEq, List.not_mem_nil, or_false] at hsign
    rcases hsign with ⟨rfl, rfl⟩ | ⟨rfl, rfl⟩ | ⟨rfl, rfl⟩ | ⟨rfl, rfl⟩ | ⟨rfl, rfl⟩ | ⟨rfl, rfl⟩ <;>
      exact ⟨rfl, fun _ => rfl⟩
  exact fun rest us hrest hscans =>
    (h rest us hrest hscans).token hspace (hnext _) (Nat.le_refl _)

/-- A text that reads as one token spells it. -/
lemma spells_of_next? {c : Char} {cs : List Char} {t : Token} (hc : isSpace c = false)
    (hnext : ∀ rest, Delimits rest →
      Token.next? ((c :: cs).map some ++ rest) = some (t, rest)) : Spells (c :: cs) [t] := by
  intro rest us hrest hscans
  exact hscans.token hc (hnext rest hrest) (by simp)

lemma NumberText.spells {n : Number} {cs : List Char} (h : NumberText n cs) :
    Spells cs [.number n] := by
  have hscan := fun rest (hrest : Delimits rest) => scanNumber_append h hrest
  obtain ⟨c, cs, rfl, hc⟩ := h.exists_cons
  refine spells_of_next? (not_isSpace_of_opensNumber hc) fun rest hrest => ?_
  have hnumber := hscan rest hrest
  rw [List.map_cons, List.cons_append] at hnumber ⊢
  rw [next?_of_opensNumber hc, hnumber]
  rfl

lemma StringText.spells {s : Option String} {cs : List Char} (h : StringText s cs) :
    Spells cs [.string s] := by
  obtain ⟨hbody⟩ := h
  refine spells_of_next? rfl fun rest _ => ?_
  have hpieces := stringPieces_append hbody rest
  simp [Token.next?, scanString, hpieces]

lemma spells_writeBool (b : Bool) : Spells (writeBool b) [.bool b] := by
  cases b <;> exact spells_of_next? rfl fun _ _ => rfl

lemma spells_null : Spells ['n', 'u', 'l', 'l'] [.null] := spells_of_next? rfl fun _ _ => rfl

end Json

end GridScript
