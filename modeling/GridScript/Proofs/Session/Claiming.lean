import GridScript.Proofs.Script.Repeats
import GridScript.Proofs.Session.Joining

/-!
Lines that begin with a loop or a condition.

A statement takes a space or a tab after the keyword of a loop or a condition, but only with a space
does it claim its line. After a tab the line is cut at its separators like any other, and the loop
or the condition ends with its first member.

A claimed line is one statement, and its body is one command. The only command that takes in a
separator is a print, as part of its message. In front of the body no separator can stand, except
that a condition is trimmed, and a line feed is a blank for that.
-/

namespace GridScript

/-- The command in the middle of a statement. -/
def Statement.innermost : Statement → Command
  | command c => c
  | loop _ _ body => body.innermost
  | guarded _ body => body.innermost

namespace Script

open Grammar

/-! ### Keywords -/

/-- The text begins with the keyword of a loop or a condition, and `b` comes next. -/
def OpensWith (b : Char) (cs : List Char) : Prop :=
  "for".toList ++ [b] <+: cs ∨ "if".toList ++ [b] <+: cs

lemma claimsLine_iff {cs : List Char} : claimsLine cs = true ↔ OpensWith ' ' cs := by
  rw [← Bool.not_eq_false, claimsLine_eq_false_iff, ← not_or, not_not]
  exact Iff.rfl

lemma OpensWith.eq {a b : Char} {cs : List Char} (ha : OpensWith a cs) (hb : OpensWith b cs) :
    a = b := by
  rcases ha with ⟨t, rfl⟩ | ⟨t, rfl⟩ <;> rcases hb with ⟨u, hu⟩ | ⟨u, hu⟩ <;> simp at hu
  all_goals exact hu.1.symm

lemma OpensWith.ne_nil {b : Char} {cs : List Char} (h : OpensWith b cs) : cs ≠ [] := by
  rintro rfl
  simp [OpensWith] at h

/-- With a gap after its keyword, a text is read as a loop or a condition. -/
lemma OpensWith.form_ne_plain {b : Char} (hb : IsGapChar b) {cs : List Char}
    (h : OpensWith b cs) : form cs ≠ .plain := by
  have hgap : ∀ t, ¬Stops IsGapChar (b :: t) := fun t => by simpa [stops_cons] using hb
  rcases h with ⟨t, rfl⟩ | ⟨t, rfl⟩
  · rw [List.append_assoc, List.singleton_append, form_eq_loop_iff.2 ⟨rfl, hgap t⟩]
    exact Form.noConfusion
  · rw [List.append_assoc, List.singleton_append, form_eq_guarded_iff.2 ⟨rfl, hgap t⟩]
    exact Form.noConfusion

/-- A claimed line is read as one statement. -/
lemma OpensWith.readLine_eq {cs : List Char} (h : OpensWith ' ' (Text.trim cs)) (limit : UInt32) :
    readLine limit cs = [readStatement limit cs] := by
  rw [readLine, lineParts, if_pos (claimsLine_iff.2 h), List.map_singleton, readStatement_trim]

/-! ### Texts without separators -/

/-- No separator stands in the text. -/
def Whole (cs : List Char) : Prop := ∀ c ∈ cs, isSeparator c = false

instance : DecidablePred Whole := fun cs =>
  decidable_of_iff (cs.all (fun c => !isSeparator c) = true) (by simp [Whole])

@[simp] lemma whole_append {a b : List Char} : Whole (a ++ b) ↔ Whole a ∧ Whole b :=
  List.forall_mem_append

@[simp] lemma whole_singleton {c : Char} : Whole [c] ↔ isSeparator c = false :=
  List.forall_mem_singleton

lemma not_whole_iff {cs : List Char} : ¬Whole cs ↔ ∃ c ∈ cs, isSeparator c = true := by
  simp [Whole]

lemma whole_of_mem_members {cs t : List Char} (h : t ∈ members cs) : Whole t := by
  obtain ⟨w, hw, rfl⟩ := List.mem_map.1 (List.mem_filter.1 h).1
  obtain ⟨⟨a, z, hsplit, -, -⟩, -, -⟩ := trim_spec w
  have hwhole : Whole w := Text.not_separator_of_mem_split hw
  rw [hsplit, whole_append, whole_append] at hwhole
  exact hwhole.1.2

namespace Grammar

lemma Gap.whole {b : List Char} (h : Gap b) : Whole b := fun c hc => by
  rcases h c hc with rfl | rfl <;> rfl

lemma Numeral.whole {ds : List Char} {n : Nat} (h : Numeral ds n) : Whole ds :=
  whole_of_isNameChar fun c hc => .inr (.inl (h.digits.2 c hc))

lemma Literal.whole {cs : List Char} {n : Nat} (h : Literal cs n) : Whole cs := by
  cases h with
  | plain h => exact h.whole
  | plus h => exact List.forall_mem_cons.2 ⟨rfl, h.whole⟩

lemma DirectionWord.whole {w : List Char} {d : Direction} (h : DirectionWord w d) : Whole w :=
  whole_of_isNameChar h.isNameChar.2

lemma Name.whole {x : List Char} (h : Name x) : Whole x := whole_of_isNameChar h.isNameChar

lemma Operator.whole {o : List Char} {op : Comparison} (h : Operator o op) : Whole o := by
  obtain ⟨token, hmem, rfl⟩ := h
  have htable : ∀ e ∈ Comparison.tokens, Whole e.1.toList := by decide
  exact htable _ hmem

lemma Cond.whole {t : List Char} {condition : Condition} (h : Cond t condition) : Whole t := by
  cases h with
  | mk hx hb ho hb' hn =>
    simp [hx.whole, hb.whole, ho.whole, hb'.whole, hn.whole]

variable {limit : UInt32}

/-- Only a print holds separators, and what follows its keyword is its message. -/
lemma Cmd.whole_or_print {cs : List Char} {c : Command} (h : Cmd limit cs c) :
    Whole cs ∨ ∃ rest, cs = "print".toList ++ rest ∧ rest.head?.any opensMessage = true ∧
      c = .print (String.ofList (message rest)) := by
  cases h with
  | @print x raw _ hx hm =>
    exact .inr ⟨x :: raw, by simp, opensMessage_iff.2 hx, by rw [message_iff.1 hm]⟩
  | move hb hw he | turn hb hw he =>
    refine .inl ?_
    simp only [whole_append, hb.2.whole, hw.whole, he.whole, and_true]
    decide
  | walk hb hn _ hb' hw he =>
    refine .inl ?_
    simp only [whole_append, hb.2.whole, hn.whole, hb'.2.whole, hw.whole, he.whole, and_true]
    decide
  | wait hb hn he =>
    refine .inl ?_
    simp only [whole_append, hb.whole, hn.whole, he.whole, and_true]
    decide
  | waitDefault he | clear he | stop he => exact .inl (whole_append.2 ⟨by decide, he.whole⟩)
  | call hw =>
    refine .inl ?_
    simp only [whole_append, hw.whole, and_true]
    decide

lemma cmd_print {rest : List Char} (h : rest.head?.any opensMessage = true) :
    Cmd limit ("print".toList ++ rest) (.print (String.ofList (message rest))) := by
  obtain ⟨x, hx, hopens⟩ := (Option.any_eq_true _ _).1 h
  obtain ⟨raw, rfl⟩ := List.head?_eq_some_iff.1 hx
  have hmessage : Message (x :: raw) (message (x :: raw)) := message_iff.2 rfl
  simpa only [List.append_assoc, List.singleton_append] using
    (.print (opensMessage_iff.1 hopens) hmessage : Cmd limit _ _)

/-! ### Headers -/

/-- The text begins with a condition that has a line feed among the blanks around it. -/
def LooseIf (cs : List Char) : Prop :=
  ∃ g front rest, cs = "if".toList ++ [g] ++ front ++ [':'] ++ rest ∧ IsGapChar g ∧ ':' ∉ front ∧
    '\n' ∈ front ∧ Whole (Text.trim front)

/-- The text is of that kind, or it begins with a loop whose body is. -/
def Loose (cs : List Char) : Prop :=
  LooseIf cs ∨ ∃ front b body, cs = "for".toList ++ front ++ [':'] ++ b ++ body ∧ ':' ∉ front ∧
    Gap b ∧ LooseIf body

lemma LooseIf.feed_mem {cs : List Char} (h : LooseIf cs) : '\n' ∈ cs := by
  obtain ⟨g, front, rest, rfl, -, -, hfeed, -⟩ := h
  simp [hfeed]

lemma Loose.feed_mem {cs : List Char} (h : Loose cs) : '\n' ∈ cs := by
  rcases h with h | ⟨front, b, body, rfl, -, -, h⟩
  · exact h.feed_mem
  · exact List.mem_append_right _ h.feed_mem

/-- The blanks around a condition hold no semicolon. -/
lemma whole_of_trims {cs t : List Char} (h : Trims cs t) (ht : Whole t) (hfeed : '\n' ∉ cs) :
    Whole cs := by
  obtain ⟨⟨a, z, rfl, ha, hz⟩, -, -⟩ := h
  have hblank : ∀ {b : List Char}, (∀ c ∈ b, Text.isBlank c = true) → '\n' ∉ b → Whole b := by
    intro b hb hnot c hc
    refine Bool.eq_false_iff.2 fun hsep => ?_
    have hcases : c = ';' ∨ c = '\n' := by simpa [isSeparator] using hsep
    rcases hcases with rfl | rfl
    · exact absurd (hb _ hc) (by decide)
    · exact hnot hc
  simp only [List.mem_append, not_or] at hfeed
  exact whole_append.2 ⟨whole_append.2 ⟨hblank ha hfeed.1.1, ht⟩, hblank hz hfeed.2⟩

/-- Before any command the text makes a statement of some kind, with that command in its middle. -/
structure Header (limit : UInt32) (R : List Char → Statement → Prop) (front : List Char)
    (f : Command → Statement) : Prop where
  derives : ∀ {body : List Char} {c : Command}, Cmd limit body c → R (front ++ body) (f c)
  innermost : ∀ c, (f c).innermost = c

lemma Header.mono {R R' : List Char → Statement → Prop} {front : List Char}
    {f : Command → Statement} (h : Header limit R front f) (hR : ∀ {cs st}, R cs st → R' cs st) :
    Header limit R' front f :=
  ⟨fun hc => hR (h.derives hc), h.innermost⟩

/-- A statement under a condition is a header and a command. Only such a line feed can be a
separator in the header. -/
lemma If.split {cs : List Char} {st : Statement} (h : If limit cs st) :
    ∃ front f body c, cs = front ++ body ∧ st = f c ∧ Cmd limit body c ∧
      Header limit (If limit) front f ∧ (Whole front ∨ LooseIf cs) := by
  cases h with
  | @mk g front t b body condition c hg hcolon ht hc hb hbody =>
    refine ⟨_, fun c => .guarded condition (.command c), body, c, rfl, rfl, hbody,
      ⟨.mk hg hcolon ht hc hb, fun _ => rfl⟩, ?_⟩
    -- the condition itself has no separator, so only the blanks around it count
    by_cases hfeed : '\n' ∈ front
    · refine .inr ⟨g, front, b ++ body, by simp, hg, hcolon, hfeed, ?_⟩
      rw [← trim_cons hg.isBlank, ← trims_iff.1 ht]
      exact hc.whole
    · have hnone : '\n' ∉ g :: front := by
        rcases hg with rfl | rfl <;> simpa using hfeed
      obtain ⟨hg, hfront⟩ := List.forall_mem_cons.1 (whole_of_trims ht hc.whole hnone)
      refine .inl ?_
      simp only [whole_append, whole_singleton, hg, hb.whole, and_true]
      exact ⟨⟨by decide, hfront⟩, rfl⟩

/-- What stands in front of the body of a loop: no separator, and one colon, at its end. -/
lemma For.split {cs : List Char} {st : Statement} (h : For limit cs st) :
    ∃ name count front b body inner, cs = "for".toList ++ front ++ [':'] ++ b ++ body ∧
      st = .loop name count inner ∧ LoopBody limit body inner ∧ ':' ∉ front ∧ Whole front ∧
      Gap b ∧ ∀ {body : List Char} {inner : Statement}, LoopBody limit body inner →
        For limit ("for".toList ++ front ++ [':'] ++ b ++ body) (.loop name count inner) := by
  cases h with
  | @mk b₁ x b₂ b₃ b₄ b₅ ds b₆ b₇ b₈ body count st h₁ hx h₂ h₃ h₄ h₅ hn hlimit h₆ h₇ h₈ hbody =>
    have hgap : ∀ {b : List Char}, Gap b → ':' ∉ b := fun hb hmem => by
      simpa [IsGapChar] using hb _ hmem
    have hname : ':' ∉ x := fun hmem => by
      simpa [IsNameChar, IsLetter, IsDigit] using hx.isNameChar _ hmem
    have hdigits : ':' ∉ ds := fun hmem => by
      simpa [IsDigit] using hn.digits.2 _ hmem
    refine ⟨String.ofList x, count, b₁ ++ x ++ b₂ ++ "in".toList ++ b₃ ++ "range".toList ++ b₄ ++
      ['('] ++ b₅ ++ ds ++ b₆ ++ [')'] ++ b₇, b₈, body, st, by simp, rfl, hbody, ?_, ?_, h₈,
      fun hbody => ?_⟩
    · simp [hgap h₁.2, hgap h₂.2, hgap h₃.2, hgap h₄, hgap h₅, hgap h₆, hgap h₇, hname, hdigits]
    · simp only [whole_append, h₁.2.whole, hx.whole, h₂.2.whole, h₃.2.whole, h₄.whole, h₅.whole,
        hn.whole, h₆.whole, h₇.whole, and_true]
      decide
    · have hfor := For.mk h₁ hx h₂ h₃ h₄ h₅ hn hlimit h₆ h₇ h₈ hbody
      simpa only [List.append_assoc] using hfor

/-- Every statement is a header, empty for a command on its own, and a command. -/
lemma Line.split {cs : List Char} {st : Statement} (h : Line limit cs st) :
    ∃ front f body c, cs = front ++ body ∧ st = f c ∧ Cmd limit body c ∧
      Header limit (Line limit) front f ∧ (Whole front ∨ Loose cs) := by
  cases h with
  | command hc =>
    exact ⟨[], .command, cs, _, rfl, rfl, hc, ⟨.command, fun _ => rfl⟩, .inl (by decide)⟩
  | guarded h =>
    obtain ⟨front, f, body, c, hcs, hst, hc, hheader, hfront⟩ := h.split
    exact ⟨front, f, body, c, hcs, hst, hc, hheader.mono .guarded, hfront.imp_right .inl⟩
  | loop h =>
    obtain ⟨name, count, front, b, body, inner, rfl, rfl, hbody, hcolon, hwhole, hb, hfor⟩ :=
      h.split
    have hstart : Whole ("for".toList ++ front ++ [':'] ++ b) := by
      simp only [whole_append, hwhole, hb.whole, and_true]
      decide
    cases hbody with
    | command hc =>
      exact ⟨_, fun c => .loop name count (.command c), body, _, rfl, rfl, hc,
        ⟨fun hc => .loop (hfor (.command hc)), fun _ => rfl⟩, .inl hstart⟩
    | guarded hif =>
      obtain ⟨front', f, body', c, rfl, rfl, hc, hheader, hfront⟩ := hif.split
      refine ⟨_ ++ front', fun c => .loop name count (f c), body', c,
        (List.append_assoc _ _ _).symm, rfl, hc, ⟨fun hc => ?_, hheader.innermost⟩, ?_⟩
      · rw [List.append_assoc]
        exact .loop (hfor (.guarded (hheader.derives hc)))
      · -- the header of the loop adds no separator to the one of the condition
        rcases hfront with hfront | hloose
        · exact .inl (whole_append.2 ⟨hstart, hfront⟩)
        · exact .inr (.inr ⟨front, b, front' ++ body', rfl, hcolon, hb, hloose⟩)

/-- A text with separators is a statement exactly if it is a header and a print, and the separators
are all in the message. -/
lemma line_iff_print {cs : List Char} {st : Statement} (hsep : ¬Whole cs)
    (htight : ¬(Loose cs ∧ ∃ st, Line limit cs st)) :
    Line limit cs st ↔ ∃ front f rest, cs = front ++ ("print".toList ++ rest) ∧ Whole front ∧
      Header limit (Line limit) front f ∧ rest.head?.any opensMessage = true ∧
      st = f (.print (String.ofList (message rest))) := by
  refine ⟨fun h => ?_, ?_⟩
  · have htight' : ¬Loose cs := fun hloose => htight ⟨hloose, st, h⟩
    obtain ⟨front, f, body, c, rfl, rfl, hbody, hheader, hfront⟩ := h.split
    replace hfront : Whole front := hfront.resolve_right htight'
    rcases hbody.whole_or_print with hwhole | ⟨rest, rfl, hopens, rfl⟩
    · exact absurd (whole_append.2 ⟨hfront, hwhole⟩) hsep
    · exact ⟨front, f, rest, rfl, hfront, hheader, hopens, rfl⟩
  · rintro ⟨front, f, rest, rfl, -, hheader, hopens, rfl⟩
    exact hheader.derives (cmd_print hopens)

end Grammar

/-! ### What is claimed -/

/-- **A loop or a condition claims its line if a space follows its keyword.** A statement takes a
space or a tab there. With a space the line is one part, whatever it holds; with a tab its parts are
its members, so that it is one part only if it has no separators. -/
theorem lineParts_of_header {b : Char} (hb : IsGapChar b) {cs : List Char}
    (h : OpensWith b (Text.trim cs)) :
    form (Text.trim cs) ≠ .plain ∧
      (b = ' ' → ∀ limit, readLine limit cs = [readStatement limit cs]) ∧
      (b = '\t' → ∀ limit, readLine limit cs = (members cs).map (readStatement limit)) ∧
      (lineParts cs = [Text.trim cs] ↔ b = ' ' ∨ Whole (Text.trim cs)) := by
  have htab : b ≠ ' ' → lineParts cs = members (Text.trim cs) := fun hne => by
    rw [lineParts_eq_members, members_of_trims (trim_spec cs)]
    exact Bool.eq_false_iff.2 fun hclaims => hne (h.eq (claimsLine_iff.1 hclaims))
  refine ⟨h.form_ne_plain hb, ?_, ?_, ?_⟩
  · rintro rfl
    exact h.readLine_eq
  · rintro rfl limit
    rw [readLine, htab (by decide), ← members_of_trims (trim_spec cs)]
  · by_cases hspace : b = ' '
    · subst hspace
      simp [lineParts, claimsLine_iff.2 h]
    · rw [htab hspace, or_iff_right hspace]
      refine ⟨fun hparts => ?_, fun hwhole => ?_⟩
      · have hmem : Text.trim cs ∈ members (Text.trim cs) := by simp [hparts]
        exact whole_of_mem_members hmem
      · rw [members_of_whole hwhole, trim_trim]
        simp [h.ne_nil]

/-- A loop with a tab after its keyword, and a command behind it. -/
def tabbedLoop : List Char := "for\ti in range(2): move right; wait 5".toList

/-- The loop is read without the command behind it, and is faulty with it. -/
theorem tabbed_loop_split :
    OpensWith '\t' (Text.trim tabbedLoop) ∧
      readStatement 9 tabbedLoop = .error (.unrecognized "move right; wait 5") ∧
      readLine 9 tabbedLoop =
        [.ok (.loop "i" 2 (.command (.move .right))), .ok (.command (.wait (some 5)))] :=
  ⟨.inl (by decide), by decide +kernel, by decide +kernel⟩

theorem lineParts_of_header_tabbed :
    IsGapChar '\t' ∧ OpensWith '\t' (Text.trim tabbedLoop) ∧
      lineParts tabbedLoop ≠ [Text.trim tabbedLoop] ∧
      ∀ limit, readLine limit tabbedLoop =
        ["for\ti in range(2): move right".toList, "wait 5".toList].map (readStatement limit) := by
  have hgap : IsGapChar '\t' := .inr rfl
  have hopens : OpensWith '\t' (Text.trim tabbedLoop) := .inl (by decide)
  have hmembers : members tabbedLoop =
      ["for\ti in range(2): move right".toList, "wait 5".toList] := by decide +kernel
  obtain ⟨-, -, htab, hiff⟩ := lineParts_of_header hgap hopens
  refine ⟨hgap, hopens, fun hparts => ?_, hmembers ▸ htab rfl⟩
  rcases hiff.1 hparts with hspace | hwhole
  · exact absurd hspace (by decide)
  · exact absurd hwhole (by decide)

end Script

/-! ### Submitting what is claimed -/

/-- A line with one part that is faulty leaves a scheduler as it is. -/
lemma submit_of_error {rules : Rules} {line : String} {e : ParseError}
    (h : Script.readLine rules.maxRepeat line.toList = [.error e]) {σ : Type} [Scene σ]
    (s : Scheduler) (w : σ) :
    let r := rules.submit line s w
    r.report.errors = [e] ∧ r.report.success = false ∧ r.report.staged = 0 ∧ r.scheduler = s := by
  intro r
  have hnone : Effect.ofLine rules (Scene.reading w) line = [] := by
    rw [Effect.ofLine, h]
    rfl
  have herrors : r.report.errors = [e] := by
    rw [errors_submit, h]
    rfl
  refine ⟨herrors, ?_, ?_, ?_⟩
  · rw [success_submit, herrors]
    rfl
  · rw [staged_submit, hnone]
    rfl
  · rw [scheduler_submit, hnone]
    rfl

/-- **A claimed line with separators is faulty unless it prints them.** A line that begins with a
loop or a condition and a space is read as one statement. If it has a separator, and is not read
although there is a line feed beside a condition, then this statement is a header without separators
and a print of all that follows; else it is faulty, and submitting it stages nothing. -/
theorem Script.separators_in_claimed {cs : List Char} (h : OpensWith ' ' (Text.trim cs)) :
    (∀ limit, readLine limit cs = [readStatement limit cs]) ∧
      ((∃ c ∈ Text.trim cs, c = ';' ∨ c = '\n') → ∀ limit,
        ¬(Grammar.Loose (Text.trim cs) ∧ ∃ st, readStatement limit cs = .ok st) →
        ∀ st, readStatement limit cs = .ok st ↔
          ∃ front f rest, Text.trim cs = front ++ ("print".toList ++ rest) ∧ Whole front ∧
            Grammar.Header limit (Grammar.Line limit) front f ∧
            rest.head?.any opensMessage = true ∧
            st = f (.print (String.ofList (message rest)))) ∧
      ∀ (rules : Rules) (e : ParseError), readStatement rules.maxRepeat cs = .error e →
        ∀ {σ : Type} [Scene σ] (s : Scheduler) (w : σ),
          let r := rules.submit (String.ofList cs) s w
          r.report.errors = [e] ∧ r.report.success = false ∧ r.report.staged = 0 ∧
            r.scheduler = s := by
  refine ⟨h.readLine_eq, fun hsep limit htight st => ?_, fun rules e hread σ _ s w => ?_⟩
  · have hnot : ¬Whole (Text.trim cs) := by
      simpa [not_whole_iff, isSeparator] using hsep
    simp only [readStatement, readTrimmed_eq_ok_iff] at htight ⊢
    exact Grammar.line_iff_print hnot htight
  · refine submit_of_error ?_ s w
    rw [String.toList_ofList, h.readLine_eq, hread]

/-- A loop and a separator in the message that it prints. -/
theorem Script.print_takes_separators :
    OpensWith ' ' "for i in range(2): print a; b".toList ∧
      readLine 9 "for i in range(2): print a; b".toList =
        [.ok (.loop "i" 2 (.command (.print "a; b")))] :=
  ⟨.inl (by decide), by decide +kernel⟩

/-- A loop with two commands for its body. -/
def Script.doubleBody : List Char := " for i in range(3): move up; move down".toList

theorem Script.separators_in_claimed_double :
    OpensWith ' ' (Text.trim doubleBody) ∧ (∃ c ∈ Text.trim doubleBody, c = ';' ∨ c = '\n') ∧
      ¬Grammar.Loose (Text.trim doubleBody) ∧
      (∀ limit st, readLine limit doubleBody ≠ [.ok st]) ∧
      let r := rowConfig.rules.submit (String.ofList doubleBody) (.new rowConfig) rowWorld
      r.report.staged = 0 ∧ r.scheduler = .new rowConfig := by
  have hopens : OpensWith ' ' (Text.trim doubleBody) := .inl (by decide)
  have hsep : ∃ c ∈ Text.trim doubleBody, c = ';' ∨ c = '\n' := ⟨';', by decide, .inl rfl⟩
  have htight : ¬Grammar.Loose (Text.trim doubleBody) := fun h => absurd h.feed_mem (by decide)
  have hread : readStatement rowConfig.rules.maxRepeat doubleBody =
      .error (.unrecognized "move up; move down") := by decide +kernel
  obtain ⟨hline, hprint, hsubmit⟩ := separators_in_claimed hopens
  obtain ⟨-, -, hstaged, hscheduler⟩ := hsubmit rowConfig.rules _ hread (.new rowConfig) rowWorld
  refine ⟨hopens, hsep, htight, fun limit st hok => ?_, hstaged, hscheduler⟩
  rw [hline, List.singleton_inj] at hok
  obtain ⟨front, f, rest, hsplit, -⟩ := (hprint hsep limit (fun h => htight h.1) st).1 hok
  have hmem : 't' ∈ Text.trim doubleBody := by simp [hsplit]
  exact absurd hmem (by decide)

end GridScript
