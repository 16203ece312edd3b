import GridScript.Proofs.Script.Parts

/-!
Keywords and what stands right behind them.

A move, a turn and a walk take a gap between their keyword and its argument. A wait does not ask for
one: what ends its keyword is that no name character follows, and so the plus sign of a number may
stand right behind it. Nothing else may, in any part of a statement.
-/

namespace GridScript

/-- The keyword under which a command takes its argument. -/
def Command.keyword? : Command → Option String
  | .move _ => some "move"
  | .turn _ => some "turn"
  | .walk .. => some "walk"
  | .wait _ => some "wait"
  | .print _ | .clear => none

namespace Script

namespace Grammar

/-- The keywords that take an argument. -/
def keywords : List String := ["move", "turn", "walk", "wait"]

/-- The text does not go on, or it goes on with a gap. -/
def Apart (rest : List Char) : Prop := Stops (fun c => ¬IsGapChar c) rest

/-- A number with a plus sign and nothing in front of that. -/
inductive Plus : List Char → UInt64 → Prop where
  | mk {ds e : List Char} {ms : UInt64} (hn : Numeral ds ms.toNat) (he : Gap e) :
    Plus ('+' :: ds ++ e) ms

end Grammar

open Grammar

variable {limit : UInt32} {cs rest : List Char} {w : String} {c : Command}

lemma Grammar.Space.apart {b : List Char} (h : Space b) : Apart (b ++ rest) :=
  stops_append h.1 fun d hd => not_not.2 (h.2 d hd)

lemma Grammar.Gap.apart {e : List Char} (h : Gap e) : Apart e :=
  h.stops fun _ => not_not.2

/-- The number of a wait is apart from the keyword unless a plus sign comes first. -/
lemma apart_or_plus_of_literal {b n e : List Char} {ms : UInt64} (hb : Gap b)
    (hn : Literal n ms.toNat) (he : Gap e) (keyword : Stops IsNameChar (b ++ n)) :
    Apart (b ++ n ++ e) ∨ Plus (b ++ n ++ e) ms := by
  rcases b with _ | ⟨g, b⟩
  · cases hn with
    | plain hn =>
      -- digits would belong to the keyword
      obtain ⟨hne, hdigits⟩ := hn.digits
      obtain ⟨d, ds, rfl⟩ := List.exists_cons_of_ne_nil hne
      exact absurd (.inr (.inl (hdigits d List.mem_cons_self))) (stops_cons.1 keyword)
    | plus hn => exact .inr (.mk hn he)
  · exact .inl (stops_cons.2 (not_not.2 (hb g List.mem_cons_self)))

/-- **Behind a keyword** stands a gap, unless the command is a wait whose number has a plus sign. -/
lemma Grammar.Cmd.apart_or_plus (h : Cmd limit (w.toList ++ rest) c) (hw : w ∈ keywords) :
    Apart rest ∨ w = "wait" ∧ ∃ ms, Plus rest ms ∧ c = .wait (some ms) := by
  generalize hcs : w.toList ++ rest = cs at h
  simp only [keywords, List.mem_cons, List.not_mem_nil, or_false] at hw
  -- of the forms of a command, only that of the keyword itself begins with it
  rcases hw with rfl | rfl | rfl | rfl <;> cases h <;> simp at hcs
  case inl.move hb _ _ | inr.inl.turn hb _ _ | inr.inr.inl.walk hb _ _ _ _ _ =>
    exact .inl (hcs ▸ hb.apart)
  case inr.inr.inr.waitDefault he => exact .inl (hcs ▸ he.apart)
  case inr.inr.inr.wait ms hb hn he keyword =>
    rw [hcs, ← List.append_assoc]
    exact (apart_or_plus_of_literal hb hn he keyword).imp_right fun hplus => ⟨rfl, ms, hplus, rfl⟩

/-- The form of its keyword is the only one of a command but for the calls of a move. -/
lemma Grammar.Cmd.keyword (h : Cmd limit cs c) (hw : c.keyword? = some w) :
    (∃ rest, cs = w.toList ++ rest) ∨
      w = "move" ∧ ∃ name, cs = "player.move".toList ++ name := by
  cases h <;> cases hw
  case call => exact .inr ⟨rfl, _, List.append_assoc _ _ _⟩
  case waitDefault => exact .inl ⟨_, rfl⟩
  all_goals
    simp only [List.append_assoc]
    exact .inl ⟨_, rfl⟩

lemma Command.mem_keywords (h : c.keyword? = some w) : w ∈ keywords := by
  cases c <;> cases h <;> decide

lemma Grammar.Plus.cmd {ms : UInt64} (h : Plus rest ms) :
    Cmd limit ("wait".toList ++ rest) (.wait (some ms)) := by
  cases h with
  | @mk ds e _ hn he =>
    have hkeyword : Stops IsNameChar ([] ++ '+' :: ds) :=
      stops_cons.2 (by simp [IsNameChar, IsLetter, IsDigit])
    have hgap : Gap [] := by simp [Gap]
    exact (.wait hgap (.plus hn) he hkeyword : Cmd limit _ _)

/-! ### In a statement -/

lemma form_keyword (hw : w ∈ keywords) : form (w.toList ++ rest) = .plain := by
  simp only [keywords, List.mem_cons, List.not_mem_nil, or_false] at hw
  cases hform : form (w.toList ++ rest) with
  | plain => rfl
  | loop r =>
    have hsrc := (form_eq_loop_iff.1 hform).1
    rcases hw with rfl | rfl | rfl | rfl <;> simp at hsrc
  | guarded r =>
    have hsrc := (form_eq_guarded_iff.1 hform).1
    rcases hw with rfl | rfl | rfl | rfl <;> simp at hsrc

/-- A part that begins with a keyword is a command, or it is faulty. -/
lemma readAt_keyword (k : Level) (hw : w ∈ keywords) :
    readAt limit k (w.toList ++ rest) =
      (readCommand limit (w.toList ++ rest)).map .command := by
  cases k <;>
    simp only [readAt, readTrimmed, readLoopBody, readGuardedBody, form_keyword hw]

lemma body_of_keyword (hw : w ∈ keywords) (rest : List Char) :
    w.toList ++ rest ≠ [] ∧ Stops IsGapChar (w.toList ++ rest) := by
  have htable : ∀ w ∈ keywords, w.toList ≠ [] ∧ w.toList.all isNameChar = true := by decide
  obtain ⟨hne, hname⟩ := htable w hw
  exact ⟨by simp [hne], stops_append hne fun d hd =>
    not_isGapChar_of_isNameChar (isNameChar_iff.1 (List.all_eq_true.1 hname d hd))⟩

/-- What a statement is whose last part begins with a keyword. -/
lemma readStatement_keyword {k : Level} {front : List Char} {wrap : Statement → Statement}
    (hbefore : Before limit k front wrap) (hw : w ∈ keywords)
    (hcs : Text.trim cs = front ++ (w.toList ++ rest)) (st : Statement) :
    readStatement limit cs = .ok st ↔
      ∃ c, Cmd limit (w.toList ++ rest) c ∧ st = wrap (.command c) := by
  obtain ⟨hne, hstops⟩ := body_of_keyword hw rest
  rw [readStatement, hcs, hbefore.readTrimmed_append hne hstops, readAt_keyword k hw]
  simp only [map_eq_ok_iff, readCommand_eq_ok_iff]
  constructor
  · rintro ⟨_, ⟨c, hc, rfl⟩, rfl⟩
    exact ⟨c, hc, rfl⟩
  · rintro ⟨c, hc, rfl⟩
    exact ⟨_, ⟨c, hc, rfl⟩, rfl⟩

/-- **What stands behind a keyword.** Every statement has a command for its last part, in the form
of its keyword if it is a turn, a walk or a wait, and in that or in the form of a call if it is a
move. A gap stands behind the keyword, or nothing, or the plus sign of the number of a wait: with
anything else glued to its keyword a part makes the statement an error. -/
theorem keyword_apart_or_plus (limit : UInt32) (cs : List Char) :
    (∀ st, readStatement limit cs = .ok st →
      ∃ k front wrap body c, Text.trim cs = front ++ body ∧ Before limit k front wrap ∧
        st = wrap (.command c) ∧ ∀ w, c.keyword? = some w →
          (w = "move" ∧ ∃ name, body = "player.move".toList ++ name) ∨
            ∃ rest, body = w.toList ++ rest ∧
              (Apart rest ∨ w = "wait" ∧ ∃ ms, Plus rest ms ∧ c = .wait (some ms))) ∧
    ∀ k front wrap w rest, Before limit k front wrap → w ∈ keywords →
      Text.trim cs = front ++ (w.toList ++ rest) → ¬Apart rest →
        ∀ st, readStatement limit cs = .ok st ↔
          w = "wait" ∧ ∃ ms, Plus rest ms ∧ st = wrap (.command (.wait (some ms))) := by
  refine ⟨fun st h => ?_, fun k front wrap w rest hbefore hw hcs hnot st => ?_⟩
  · obtain ⟨k, front, wrap, body, c, hcs, hbefore, hc, hst⟩ :=
      line_iff_before.1 (readTrimmed_eq_ok_iff.1 h)
    refine ⟨k, front, wrap, body, c, hcs, hbefore, hst, fun w hw => ?_⟩
    rcases hc.keyword hw with ⟨rest, rfl⟩ | hcall
    · exact .inr ⟨rest, rfl, hc.apart_or_plus (Command.mem_keywords hw)⟩
    · exact .inl hcall
  · rw [readStatement_keyword hbefore hw hcs]
    constructor
    · rintro ⟨c, hc, rfl⟩
      obtain ⟨hwait, ms, hplus, rfl⟩ := (hc.apart_or_plus hw).resolve_left hnot
      exact ⟨hwait, ms, hplus, rfl⟩
    · rintro ⟨rfl, ms, hplus, rfl⟩
      exact ⟨_, hplus.cmd, rfl⟩

/-- The plus sign stands right behind the keyword of this wait. -/
theorem wait_plus_glued :
    Text.trim "wait+5".toList = [] ++ ("wait".toList ++ "+5".toList) ∧ ¬Apart "+5".toList ∧
      readStatement defaultLimit "wait+5".toList = .ok (.command (.wait (some 5))) := by
  have hnot : ¬Apart "+5".toList := fun h => by simpa [IsGapChar] using h '+' rfl
  exact ⟨by decide, hnot, by decide +kernel⟩

/-- A wait of five milliseconds in a loop, and a walk whose steps are glued to its keyword. -/
theorem keyword_apart_or_plus_body :
    readStatement 9 "for i in range(2): wait+5".toList =
        .ok (.loop "i" 2 (.command (.wait (some 5)))) ∧
      ∀ st, readStatement 9 "for i in range(2): walk+5 up".toList ≠ .ok st := by
  have hspace : Space [' '] := ⟨by decide, by simp [Gap, IsGapChar]⟩
  have hgap : Gap [] := by simp [Gap]
  have hdigits : ['2', '5'].all Text.isDigit = true := by decide
  have hdigit : ∀ c ∈ ['2', '5'], IsDigit c :=
    fun c hc => isDigit_iff.1 (List.all_eq_true.1 hdigits c hc)
  have hname : Name ['i'] := .mk (.inl (.inl ⟨by decide, by decide⟩)) (by simp)
  have hcount : Numeral ['2'] (2 : UInt32).toNat := .mk (by decide) (by simpa using hdigit '2')
  have hms : Numeral ['5'] (5 : UInt64).toNat := .mk (by decide) (by simpa using hdigit '5')
  have hhead : Before 9 .loopBody _ (.loop _ _) :=
    .loop (.mk hspace hname hspace hspace hgap hgap hcount (by decide) hgap hgap hspace.2)
  have hnot : ∀ rest, ¬Apart ('+' :: rest) := fun rest h => by simpa [IsGapChar] using h '+' rfl
  refine ⟨?_, fun st h => ?_⟩
  · refine ((keyword_apart_or_plus 9 _).2 _ _ _ "wait" "+5".toList hhead (by decide) (by decide)
      (hnot _) _).2 ⟨rfl, 5, ?_, rfl⟩
    exact .mk hms hgap
  · obtain ⟨hwait, -⟩ := ((keyword_apart_or_plus 9 _).2 _ _ _ "walk" "+5 up".toList hhead
      (by decide) (by decide) (hnot _) _).1 h
    exact absurd hwait (by decide)

end Script

end GridScript
