import GridScript.Proofs.Script.Commands

/-!
Reading a statement accepts exactly the texts of the grammar, and gives the tree they derive.

The proof goes up the grammar: the form of a statement, headers of loops, conditions, bodies,
statements. A body begins with a name character, so the gap before it is the one that is skipped.
-/

namespace GridScript.Script

open Grammar

/-! ### Forms -/

lemma eq_append_of_word {src : List Char} {k : String} (hw : String.ofList (word src).1 = k) :
    src = k.toList ++ (word src).2 := by
  rw [← hw, String.toList_ofList]
  exact (word_split src).1

lemma form_eq_loop_iff {src rest : List Char} :
    form src = .loop rest ↔ src = "for".toList ++ rest ∧ ¬Stops IsGapChar rest := by
  refine ⟨fun h => ?_, ?_⟩
  · simp only [form] at h
    split at h
    · cases h
    · rename_i hgap
      split at h
      · rename_i hw
        obtain rfl := Form.loop.inj h
        exact ⟨eq_append_of_word hw, startsWithGap_iff.1 (by simpa using hgap)⟩
      · split at h <;> cases h
  · rintro ⟨rfl, hgap⟩
    rw [form, word_append (by decide) (stops_nameChar_of_gap hgap)]
    simp [startsWithGap_iff.2 hgap]

lemma form_eq_guarded_iff {src rest : List Char} :
    form src = .guarded rest ↔ src = "if".toList ++ rest ∧ ¬Stops IsGapChar rest := by
  refine ⟨fun h => ?_, ?_⟩
  · simp only [form] at h
    split at h
    · cases h
    · rename_i hgap
      split at h
      · cases h
      · split at h
        · rename_i hw
          obtain rfl := Form.guarded.inj h
          exact ⟨eq_append_of_word hw, startsWithGap_iff.1 (by simpa using hgap)⟩
        · cases h
  · rintro ⟨rfl, hgap⟩
    rw [form, word_append (by decide) (stops_nameChar_of_gap hgap)]
    simp [startsWithGap_iff.2 hgap]

lemma Grammar.Cmd.form_eq_plain {limit : UInt32} {src : List Char} {c : Command}
    (h : Cmd limit src c) : form src = .plain := by
  have hread := readCommand_eq_ok_iff.2 h
  cases hform : form src with
  | plain => rfl
  | loop rest =>
    obtain ⟨rfl, hgap⟩ := form_eq_loop_iff.1 hform
    rw [readCommand_append (by decide) (by decide) (stops_nameChar_of_gap hgap)] at hread
    cases hread
  | guarded rest =>
    obtain ⟨rfl, hgap⟩ := form_eq_guarded_iff.1 hform
    rw [readCommand_append (by decide) (by decide) (stops_nameChar_of_gap hgap)] at hread
    cases hread

/-! ### Headers of loops -/

/-- A number in digits after a gap that may be left out. -/
lemma digitRun_skipGap_iff {cs ds rest : List Char} (hne : ds ≠ []) :
    digitRun (skipGap cs) = (ds, rest) ↔
      ∃ b, cs = b ++ (ds ++ rest) ∧ Gap b ∧ (∀ c ∈ ds, IsDigit c) ∧ Stops IsDigit rest := by
  refine ⟨fun h => ?_, ?_⟩
  · obtain ⟨hsplit, hds, hrest⟩ := digitRun_eq_iff.1 h
    obtain ⟨b, hcs, hb, -⟩ := skipGap_split cs
    exact ⟨b, by rw [← hsplit, ← hcs], hb, hds, hrest⟩
  · rintro ⟨b, rfl, hb, hds, hrest⟩
    rw [skipGap_append hb (stops_append hne fun c hc => not_isGapChar_of_isDigit (hds c hc))]
    exact digitRun_eq_iff.2 ⟨rfl, hds, hrest⟩

lemma Grammar.Name.stops_gapChar {x rest : List Char} (h : Name x) : Stops IsGapChar (x ++ rest) :=
  stops_append h.ne_nil fun c hc => not_isGapChar_of_isNameChar (h.isNameChar c hc)

lemma loopStart?_eq_some_iff {rest x ds cs : List Char} :
    loopStart? rest = some (x, ds, cs) ↔
      ∃ b₁ b₂ b₃ b₄ b₅, rest = b₁ ++ (x ++ (b₂ ++ ("in".toList ++ (b₃ ++ ("range".toList ++
          (b₄ ++ '(' :: (b₅ ++ (ds ++ cs)))))))) ∧
        Gap b₁ ∧ Name x ∧ Space b₂ ∧ Space b₃ ∧ Gap b₄ ∧ Gap b₅ ∧ ds ≠ [] ∧
          (∀ c ∈ ds, IsDigit c) ∧ Stops IsDigit cs := by
  refine ⟨fun h => ?_, ?_⟩
  · simp only [loopStart?, Option.bind_eq_bind, Option.bind_eq_some_iff, gap?_eq_some_iff,
      symbol?_eq_some_iff] at h
    obtain ⟨⟨y, r₁⟩, hname, r₂, ⟨b₂, rfl, h₂, -⟩, r₃, hin, r₄, ⟨b₃, rfl, h₃, -⟩, r₅, hrange, r₆,
      hparen, hif⟩ := h
    split at hif
    · cases hif
    rename_i hempty
    obtain ⟨rfl, hpair⟩ := Prod.mk.inj (Option.some.inj hif)
    obtain ⟨b₁, hrest, h₁, -⟩ := skipGap_split rest
    obtain ⟨hskip, hx, -⟩ := name?_eq_some_iff.1 hname
    obtain ⟨rfl, -⟩ := (keyword?_eq_some_iff (by decide)).1 hin
    obtain ⟨rfl, -⟩ := (keyword?_eq_some_iff (by decide)).1 hrange
    obtain ⟨b₄, hr₅, h₄, -⟩ := skipGap_split r₅
    have hne : ds ≠ [] := by
      rw [← (Prod.mk.inj hpair).1]
      simpa using hempty
    obtain ⟨b₅, rfl, h₅, hds, hcs⟩ := (digitRun_skipGap_iff hne).1 hpair
    refine ⟨b₁, b₂, b₃, b₄, b₅, ?_, h₁, hx, h₂, h₃, h₄, h₅, hne, hds, hcs⟩
    rw [← hparen, ← hr₅, ← hskip]
    exact hrest
  · rintro ⟨b₁, b₂, b₃, b₄, b₅, rfl, h₁, hx, h₂, h₃, h₄, h₅, hne, hds, hcs⟩
    have hskip : Stops IsGapChar (x ++ (b₂ ++ ("in".toList ++ (b₃ ++ ("range".toList ++
        (b₄ ++ '(' :: (b₅ ++ (ds ++ cs)))))))) := hx.stops_gapChar
    have hin : Stops IsGapChar ("in".toList ++ (b₃ ++ ("range".toList ++
        (b₄ ++ '(' :: (b₅ ++ (ds ++ cs)))))) := (stops_cons (c := 'i')).2 (by simp [IsGapChar])
    have hrange : Stops IsGapChar ("range".toList ++ (b₄ ++ '(' :: (b₅ ++ (ds ++ cs)))) :=
      (stops_cons (c := 'r')).2 (by simp [IsGapChar])
    have hparen : Stops IsNameChar (b₄ ++ '(' :: (b₅ ++ (ds ++ cs))) :=
      h₄.stops_append (fun _ => IsGapChar.not_isNameChar)
        (stops_cons.2 (by simp [IsNameChar, IsLetter, IsDigit]))
    have hdigits : digitRun (skipGap (b₅ ++ (ds ++ cs))) = (ds, cs) :=
      (digitRun_skipGap_iff hne).2 ⟨b₅, rfl, h₅, hds, hcs⟩
    simp only [loopStart?, Option.bind_eq_bind, Option.bind_eq_some_iff, gap?_eq_some_iff,
      symbol?_eq_some_iff]
    refine ⟨(x, _), ?_, _, ⟨b₂, rfl, h₂, hin⟩, _,
      (keyword?_eq_some_iff (by decide)).2 ⟨rfl, h₃.stops_nameChar⟩, _, ⟨b₃, rfl, h₃, hrange⟩, _,
      (keyword?_eq_some_iff (by decide)).2 ⟨rfl, hparen⟩,
      b₅ ++ (ds ++ cs), ?_, ?_⟩
    · rw [skipGap_append h₁ hskip]
      exact name?_eq_some_iff.2 ⟨rfl, hx, h₂.stops_nameChar⟩
    · exact skipGap_append h₄ (stops_cons.2 (by simp [IsGapChar]))
    · rw [hdigits]
      simp [hne]

lemma loopBody?_eq_some_iff {cs body : List Char} :
    loopBody? cs = some body ↔
      ∃ b₆ b₇ b₈, cs = b₆ ++ ')' :: (b₇ ++ ':' :: (b₈ ++ body)) ∧
        Gap b₆ ∧ Gap b₇ ∧ Gap b₈ ∧ body ≠ [] ∧ Stops IsGapChar body := by
  refine ⟨fun h => ?_, ?_⟩
  · simp only [loopBody?, Option.bind_eq_bind, Option.bind_eq_some_iff, symbol?_eq_some_iff] at h
    obtain ⟨r₁, hparen, r₂, hcolon, hif⟩ := h
    split at hif
    · cases hif
    rename_i hdone
    obtain rfl := Option.some.inj hif
    obtain ⟨b₆, hcs, h₆, -⟩ := skipGap_split cs
    obtain ⟨b₇, hr₁, h₇, -⟩ := skipGap_split r₁
    obtain ⟨b₈, hr₂, h₈, hstops⟩ := skipGap_split r₂
    refine ⟨b₆, b₇, b₈, ?_, h₆, h₇, h₈, by simpa [isDone] using hdone, hstops⟩
    rw [← hr₂, ← hcolon, ← hr₁, ← hparen]
    exact hcs
  · rintro ⟨b₆, b₇, b₈, rfl, h₆, h₇, h₈, hne, hbody⟩
    have hparen : skipGap (b₆ ++ ')' :: (b₇ ++ ':' :: (b₈ ++ body))) = _ :=
      skipGap_append h₆ (stops_cons.2 (by simp [IsGapChar]))
    have hcolon : skipGap (b₇ ++ ':' :: (b₈ ++ body)) = _ :=
      skipGap_append h₇ (stops_cons.2 (by simp [IsGapChar]))
    have hskip : skipGap (b₈ ++ body) = body := skipGap_append h₈ hbody
    simp [loopBody?, hparen, hcolon, symbol?, isDone, hskip, hne]

/-! ### Conditions -/

lemma Grammar.Operator.spec {o : List Char} {op : Comparison} (h : Operator o op) :
    o ≠ [] ∧ ∀ c ∈ o, isOperatorChar c = true := by
  obtain ⟨token, hmem, rfl⟩ := h
  have htable : ∀ e ∈ Comparison.tokens,
      e.1.toList ≠ [] ∧ e.1.toList.all isOperatorChar = true := by decide
  obtain ⟨hne, hall⟩ := htable _ hmem
  exact ⟨hne, List.all_eq_true.1 hall⟩

lemma not_isOperatorChar {c : Char} (h : IsGapChar c ∨ IsNameChar c) :
    ¬isOperatorChar c = true := by
  simp only [isOperatorChar, Bool.or_eq_true, beq_iff_eq]
  rintro (((rfl | rfl) | rfl) | rfl) <;>
    simp [IsGapChar, IsNameChar, IsLetter, IsDigit] at h

lemma conditionParts?_eq_some_iff {cs x ds rest : List Char} {op : Comparison} :
    conditionParts? cs = some (x, op, ds, rest) ↔
      ∃ b o b', cs = x ++ (b ++ (o ++ (b' ++ (ds ++ rest)))) ∧ Name x ∧ Gap b ∧ Operator o op ∧
        Gap b' ∧ ds ≠ [] ∧ (∀ c ∈ ds, IsDigit c) ∧ Stops IsDigit rest := by
  refine ⟨fun h => ?_, ?_⟩
  · simp only [conditionParts?, Option.bind_eq_bind, Option.bind_eq_some_iff,
      ofToken?_eq_some_iff] at h
    obtain ⟨⟨y, r₁⟩, hname, op', ho, hif⟩ := h
    split at hif
    · cases hif
    rename_i hempty
    obtain ⟨rfl, hinj⟩ := Prod.mk.inj (Option.some.inj hif)
    obtain ⟨rfl, hpair⟩ := Prod.mk.inj hinj
    have hne : ds ≠ [] := by
      rw [← (Prod.mk.inj hpair).1]
      simpa using hempty
    obtain ⟨rfl, hx, -⟩ := name?_eq_some_iff.1 hname
    obtain ⟨b, hr₁, hb, -⟩ := skipGap_split r₁
    obtain ⟨b', hr₂, hb', hds, hrest⟩ := (digitRun_skipGap_iff hne).1 hpair
    refine ⟨b, _, b', ?_, hx, hb, ho, hb', hne, hds, hrest⟩
    rw [← hr₂, run_append, ← hr₁]
  · rintro ⟨b, o, b', rfl, hx, hb, ho, hb', hne, hds, hrest⟩
    obtain ⟨hone, hop⟩ := ho.spec
    have hname : Stops IsNameChar (b ++ (o ++ (b' ++ (ds ++ rest)))) :=
      hb.stops_append (fun _ => IsGapChar.not_isNameChar)
        (stops_append hone fun c hc h => not_isOperatorChar (.inr h) (hop c hc))
    have hskip : Stops IsGapChar (o ++ (b' ++ (ds ++ rest))) :=
      stops_append hone fun c hc h => not_isOperatorChar (.inl h) (hop c hc)
    have hstops : Stops (fun c => isOperatorChar c = true) (b' ++ (ds ++ rest)) :=
      hb'.stops_append (fun c hc => not_isOperatorChar (.inl hc))
        (stops_append hne fun c hc => not_isOperatorChar (.inr (.inr (.inl (hds c hc)))))
    have hrun : run isOperatorChar (o ++ (b' ++ (ds ++ rest))) = (o, b' ++ (ds ++ rest)) :=
      (run_eq_iff Iff.rfl).2 ⟨rfl, hop, hstops⟩
    have hdigits : digitRun (skipGap (b' ++ (ds ++ rest))) = (ds, rest) :=
      (digitRun_skipGap_iff hne).2 ⟨b', rfl, hb', hds, hrest⟩
    rw [conditionParts?, name?_eq_some_iff.2 ⟨rfl, hx, hname⟩]
    simp [skipGap_append hb hskip, hrun, ofToken?_eq_some_iff.2 ho, hdigits, hne]

lemma readCondition_eq_ok_iff {cs : List Char} {condition : Condition} :
    readCondition cs = .ok condition ↔ ∃ t e, cs = t ++ e ∧ Gap e ∧ Cond t condition := by
  refine ⟨fun h => ?_, ?_⟩
  · simp only [readCondition, bind_eq_ok_iff, orElse_eq_ok_iff, readBound_eq_ok_iff] at h
    obtain ⟨⟨x, op, ds, rest⟩, hparts, v, ⟨n, hn, hlt, rfl⟩, hif⟩ := h
    obtain ⟨b, o, b', rfl, hx, hb, ho, hb', -⟩ := conditionParts?_eq_some_iff.1 hparts
    split at hif
    · rename_i hdone
      obtain rfl := Except.ok.inj hif
      refine ⟨_, rest, ?_, isDone_iff.1 hdone, .mk hx hb ho hb' hn hlt⟩
      simp only [List.append_assoc]
    · cases hif
  · rintro ⟨_, e, rfl, he, ⟨hx, hb, ho, hb', hn, hlt⟩⟩
    cases hn with
    | mk hne hds =>
      have hstops : Stops IsDigit e := he.stops fun c hc hd => not_isGapChar_of_isDigit hd hc
      simp only [List.append_assoc, readCondition, bind_eq_ok_iff, orElse_eq_ok_iff]
      refine ⟨_, conditionParts?_eq_some_iff.2 ⟨_, _, _, rfl, hx, hb, ho, hb', hne, hds, hstops⟩, _,
        readBound_eq_ok_iff.2 ⟨_, .mk hne hds, hlt, rfl⟩, ?_⟩
      rw [if_pos (isDone_iff.2 he)]
      rfl

/-- Without blanks at its ends a text has no gap after a condition. -/
lemma readCondition_trim {front : List Char} {condition : Condition} :
    readCondition (Text.trim front) = .ok condition ↔
      ∃ t, Trims front t ∧ Cond t condition := by
  rw [readCondition_eq_ok_iff]
  refine ⟨?_, ?_⟩
  · rintro ⟨t, e, htrim, he, hc⟩
    have hempty : e = [] := by
      rcases e.eq_nil_or_concat' with rfl | ⟨u, c, rfl⟩
      · rfl
      · have hlast := (trim_spec front).last c (by simp [htrim, ← List.append_assoc])
        have hblank : Text.isBlank c = true := (he c (by simp)).isBlank
        rw [hlast] at hblank
        cases hblank
    rw [hempty, List.append_nil] at htrim
    exact ⟨t, htrim ▸ trim_spec front, hc⟩
  · rintro ⟨t, ht, hc⟩
    exact ⟨t, [], by rw [List.append_nil, trims_iff.1 ht], by simp [Gap], hc⟩

/-! ### Bodies -/

/-- A command begins with a name character. -/
lemma Grammar.Cmd.not_stops {limit : UInt32} {src : List Char} {c : Command}
    (h : Cmd limit src c) : ¬Stops IsNameChar src := by
  intro hstops
  have hread := readCommand_eq_ok_iff.2 h
  rw [← List.nil_append src, ← show "".toList = [] from rfl,
    readCommand_append (by decide) (by decide) hstops] at hread
  cases hread

lemma body_spec {body : List Char} (h : ¬Stops IsNameChar body) :
    body ≠ [] ∧ Stops IsGapChar body := by
  rcases body with _ | ⟨c, body⟩
  · exact absurd stops_nil h
  · rw [stops_cons, not_not] at h
    exact ⟨by simp, stops_cons.2 (not_isGapChar_of_isNameChar h)⟩

lemma readGuardedBody_eq_ok_iff {limit : UInt32} {src : List Char} {st : Statement} :
    readGuardedBody limit src = .ok st ↔ ∃ c, Cmd limit src c ∧ st = .command c := by
  refine ⟨fun h => ?_, ?_⟩
  · unfold readGuardedBody at h
    split at h
    · obtain ⟨c, hc, rfl⟩ := map_eq_ok_iff.1 h
      exact ⟨c, readCommand_eq_ok_iff.1 hc, rfl⟩
    · cases h
  · rintro ⟨c, hc, rfl⟩
    rw [readGuardedBody, hc.form_eq_plain, readCommand_eq_ok_iff.2 hc]
    rfl

lemma if_iff_head {limit : UInt32} {cs : List Char} {st : Statement} :
    If limit cs st ↔ ∃ front condition body c, cs = front ++ body ∧ IfHead front condition ∧
      Cmd limit body c ∧ st = .guarded condition (.command c) := by
  refine ⟨?_, ?_⟩
  · rintro ⟨hg, hcolon, ht, hc, hb, hbody⟩
    exact ⟨_, _, _, _, rfl, .mk hg hcolon ht hc hb, hbody, rfl⟩
  · rintro ⟨_, _, _, _, rfl, ⟨hg, hcolon, ht, hc, hb⟩, hbody, rfl⟩
    exact .mk hg hcolon ht hc hb hbody

/-- A condition before the first colon makes a header. -/
lemma ifHead_of_parts {rest front r : List Char} {condition : Condition}
    (hgap : ¬Stops IsGapChar rest) (hcolon : atColon? rest = some (front, r))
    (hcond : readCondition (Text.trim front) = .ok condition) :
    ∃ head, "if".toList ++ rest = head ++ skipGap r ∧ IfHead head condition := by
  obtain ⟨rfl, hnot⟩ := atColon?_eq_some_iff.1 hcolon
  obtain ⟨t, ht, hc⟩ := readCondition_trim.1 hcond
  obtain ⟨b, hr, hb, -⟩ := skipGap_split r
  -- the text before the colon has at least the gap after the keyword
  rcases front with _ | ⟨g, front⟩
  · exact absurd (stops_cons.2 (by simp [IsGapChar])) hgap
  · have hg : IsGapChar g := by simpa [stops_cons] using hgap
    refine ⟨_, ?_, .mk hg (fun hmem => hnot (List.mem_cons_of_mem _ hmem)) ht hc hb⟩
    rw [List.append_assoc _ b, ← hr]
    simp

/-- Behind its header a condition has any body. -/
lemma Grammar.IfHead.read {front body : List Char} {condition : Condition}
    (h : IfHead front condition) (hne : body ≠ []) (hbody : Stops IsGapChar body) :
    ∃ rest, front ++ body = "if".toList ++ rest ∧ ¬Stops IsGapChar rest ∧ ∀ limit src,
      readGuarded limit src rest = (readGuardedBody limit body).map (.guarded condition) := by
  cases h with
  | @mk g front t b condition hg hcolon ht hc hb =>
    refine ⟨(g :: front) ++ ':' :: (b ++ body), by simp, by simpa [stops_cons] using hg,
      fun limit src => ?_⟩
    have hsplit : atColon? ((g :: front) ++ ':' :: (b ++ body)) = some (g :: front, b ++ body) := by
      refine atColon?_eq_some_iff.2 ⟨rfl, fun hmem => ?_⟩
      rcases List.mem_cons.1 hmem with rfl | hmem
      · simp [IsGapChar] at hg
      · exact hcolon hmem
    have hcond : readCondition (Text.trim (g :: front)) = .ok condition :=
      readCondition_trim.2 ⟨t, ht, hc⟩
    have hskip : skipGap (b ++ body) = body := skipGap_append hb hbody
    have hdone : isDone (b ++ body) = false := by simp [isDone, hskip, hne]
    simp only [readGuarded, hsplit, orElse, hcond, hdone, hskip, bind, Except.bind]
    rfl

lemma readGuarded_sound {limit : UInt32} {src rest : List Char} {st : Statement}
    (hgap : ¬Stops IsGapChar rest) (h : readGuarded limit src rest = .ok st) :
    If limit ("if".toList ++ rest) st := by
  simp only [readGuarded, bind_eq_ok_iff, orElse_eq_ok_iff] at h
  obtain ⟨⟨front, r⟩, hcolon, condition, hcond, hif⟩ := h
  obtain ⟨head, hhead, hcondition⟩ := ifHead_of_parts hgap hcolon hcond
  split at hif
  · cases hif
  · obtain ⟨st', hread, rfl⟩ := map_eq_ok_iff.1 hif
    obtain ⟨c, hbody, rfl⟩ := readGuardedBody_eq_ok_iff.1 hread
    exact if_iff_head.2 ⟨head, condition, _, c, hhead, hcondition, hbody, rfl⟩

lemma readGuarded_complete {limit : UInt32} {src : List Char} {st : Statement}
    (h : If limit src st) :
    ∃ rest, src = "if".toList ++ rest ∧ ¬Stops IsGapChar rest ∧
      readGuarded limit src rest = .ok st := by
  obtain ⟨front, condition, body, c, rfl, hhead, hbody, rfl⟩ := if_iff_head.1 h
  obtain ⟨hne, hstops⟩ := body_spec hbody.not_stops
  obtain ⟨rest, hsrc, hgap, hread⟩ := hhead.read hne hstops
  refine ⟨rest, hsrc, hgap, ?_⟩
  rw [hread, readGuardedBody_eq_ok_iff.2 ⟨c, hbody, rfl⟩]
  rfl

lemma Grammar.If.not_stops {limit : UInt32} {src : List Char} {st : Statement}
    (h : If limit src st) : ¬Stops IsNameChar src := by
  obtain ⟨rest, rfl, -⟩ := readGuarded_complete h
  exact fun hstops => hstops 'i' rfl (by simp [IsNameChar, IsLetter])

lemma Grammar.LoopBody.not_stops {limit : UInt32} {src : List Char} {st : Statement}
    (h : LoopBody limit src st) : ¬Stops IsNameChar src := by
  cases h with
  | guarded h => exact h.not_stops
  | command h => exact h.not_stops

lemma readLoopBody_eq_ok_iff {limit : UInt32} {src : List Char} {st : Statement} :
    readLoopBody limit src = .ok st ↔ LoopBody limit src st := by
  refine ⟨fun h => ?_, fun h => ?_⟩
  · unfold readLoopBody at h
    split at h
    · obtain ⟨c, hc, rfl⟩ := map_eq_ok_iff.1 h
      exact .command (readCommand_eq_ok_iff.1 hc)
    · rename_i rest hform
      obtain ⟨rfl, hgap⟩ := form_eq_guarded_iff.1 hform
      exact .guarded (readGuarded_sound hgap h)
    · cases h
  · cases h with
    | guarded h =>
      obtain ⟨rest, rfl, hgap, hread⟩ := readGuarded_complete h
      rwa [readLoopBody, form_eq_guarded_iff.2 ⟨rfl, hgap⟩]
    | command h =>
      rw [readLoopBody, h.form_eq_plain, readCommand_eq_ok_iff.2 h]
      rfl

/-! ### Loops -/

lemma for_iff_head {limit : UInt32} {cs : List Char} {st : Statement} :
    For limit cs st ↔ ∃ front x n body inner, cs = front ++ body ∧ ForHead limit front x n ∧
      LoopBody limit body inner ∧ st = .loop x n inner := by
  refine ⟨?_, ?_⟩
  · rintro ⟨h₁, hx, h₂, h₃, h₄, h₅, hn, hlimit, h₆, h₇, h₈, hbody⟩
    exact ⟨_, _, _, _, _, rfl, .mk h₁ hx h₂ h₃ h₄ h₅ hn hlimit h₆ h₇ h₈, hbody, rfl⟩
  · rintro ⟨_, _, _, _, _, rfl, ⟨h₁, hx, h₂, h₃, h₄, h₅, hn, hlimit, h₆, h₇, h₈⟩, hbody, rfl⟩
    exact .mk h₁ hx h₂ h₃ h₄ h₅ hn hlimit h₆ h₇ h₈ hbody

/-- What is read before a body makes a header. -/
lemma forHead_of_parts {limit n : UInt32} {rest x ds cs body : List Char}
    (hgap : ¬Stops IsGapChar rest) (hstart : loopStart? rest = some (x, ds, cs))
    (hcount : readCount limit ds = .ok n) (hbody : loopBody? cs = some body) :
    ∃ head, "for".toList ++ rest = head ++ body ∧ ForHead limit head (String.ofList x) n := by
  obtain ⟨hn, hlimit⟩ := readCount_eq_ok_iff.1 hcount
  obtain ⟨b₁, b₂, b₃, b₄, b₅, rfl, h₁, hx, h₂, h₃, h₄, h₅, -, hds, -⟩ :=
    loopStart?_eq_some_iff.1 hstart
  obtain ⟨b₆, b₇, b₈, rfl, h₆, h₇, h₈, -⟩ := loopBody?_eq_some_iff.1 hbody
  have hspace : Space b₁ := by
    refine ⟨?_, h₁⟩
    rintro rfl
    exact hgap hx.stops_gapChar
  exact ⟨_, by simp, .mk hspace hx h₂ h₃ h₄ h₅ (hn.numeral hds) hlimit h₆ h₇ h₈⟩

/-- Behind its header a loop has any body. -/
lemma Grammar.ForHead.read {limit n : UInt32} {front body : List Char} {x : String}
    (h : ForHead limit front x n) (hne : body ≠ []) (hbody : Stops IsGapChar body) :
    ∃ rest name ds cs, front ++ body = "for".toList ++ rest ∧ ¬Stops IsGapChar rest ∧
      loopStart? rest = some (name, ds, cs) ∧ readCount limit ds = .ok n ∧
      loopBody? cs = some body ∧ String.ofList name = x := by
  cases h with
  | @mk b₁ y b₂ b₃ b₄ b₅ ds b₆ b₇ b₈ count h₁ hx h₂ h₃ h₄ h₅ hn hlimit h₆ h₇ h₈ =>
    obtain ⟨hds, hdigit⟩ := hn.digits
    have hgap : ¬Stops IsGapChar (b₁ ++ (y ++ (b₂ ++ ("in".toList ++ (b₃ ++ ("range".toList ++
        (b₄ ++ '(' :: (b₅ ++ (ds ++ (b₆ ++ ')' :: (b₇ ++ ':' :: (b₈ ++ body)))))))))))) := by
      intro hstops
      obtain ⟨c, b, rfl⟩ := List.exists_cons_of_ne_nil h₁.1
      exact stops_cons.1 hstops (h₁.2 c List.mem_cons_self)
    have hdigits : Stops IsDigit (b₆ ++ ')' :: (b₇ ++ ':' :: (b₈ ++ body))) :=
      h₆.stops_append (fun c hc hd => not_isGapChar_of_isDigit hd hc)
        (stops_cons.2 (by simp [IsDigit]))
    exact ⟨_, y, ds, b₆ ++ ')' :: (b₇ ++ ':' :: (b₈ ++ body)),
      by simp only [List.append_assoc, List.cons_append, List.nil_append], hgap,
      loopStart?_eq_some_iff.2 ⟨_, _, _, _, _, rfl, h₁.2, hx, h₂, h₃, h₄, h₅, hds, hdigit, hdigits⟩,
      readCount_eq_ok_iff.2 ⟨.plain hn, hlimit⟩,
      loopBody?_eq_some_iff.2 ⟨_, _, _, rfl, h₆, h₇, h₈, hne, hbody⟩, rfl⟩

lemma readLoop_eq {limit n : UInt32} {src rest name ds cs body : List Char}
    (hstart : loopStart? rest = some (name, ds, cs)) (hcount : readCount limit ds = .ok n)
    (hbody : loopBody? cs = some body) : readLoop limit src rest =
      (readLoopBody limit body).map (.loop (String.ofList name) n) := by
  simp only [readLoop, hstart, hcount, hbody, orElse, bind, Except.bind]

lemma readLoop_sound {limit : UInt32} {src rest : List Char} {st : Statement}
    (hgap : ¬Stops IsGapChar rest) (h : readLoop limit src rest = .ok st) :
    For limit ("for".toList ++ rest) st := by
  simp only [readLoop, bind_eq_ok_iff, orElse_eq_ok_iff] at h
  obtain ⟨⟨x, ds, cs⟩, hstart, count, hcount, body, hbody, hmap⟩ := h
  obtain ⟨head, hhead, hfor⟩ := forHead_of_parts hgap hstart hcount hbody
  obtain ⟨st', hread, rfl⟩ := map_eq_ok_iff.1 hmap
  exact for_iff_head.2 ⟨head, _, count, body, st', hhead, hfor, readLoopBody_eq_ok_iff.1 hread, rfl⟩

lemma readLoop_complete {limit : UInt32} {src : List Char} {st : Statement}
    (h : For limit src st) :
    ∃ rest, src = "for".toList ++ rest ∧ ¬Stops IsGapChar rest ∧
      readLoop limit src rest = .ok st := by
  obtain ⟨front, x, n, body, inner, rfl, hhead, hbody, rfl⟩ := for_iff_head.1 h
  obtain ⟨hne, hstops⟩ := body_spec hbody.not_stops
  obtain ⟨rest, name, ds, cs, hsrc, hgap, hstart, hcount, hrest, rfl⟩ := hhead.read hne hstops
  refine ⟨rest, hsrc, hgap, ?_⟩
  rw [readLoop_eq hstart hcount hrest, readLoopBody_eq_ok_iff.2 hbody]
  rfl

/-! ### Statements -/

lemma readTrimmed_eq_ok_iff {limit : UInt32} {src : List Char} {st : Statement} :
    readTrimmed limit src = .ok st ↔ Line limit src st := by
  refine ⟨fun h => ?_, fun h => ?_⟩
  · unfold readTrimmed at h
    split at h
    · obtain ⟨c, hc, rfl⟩ := map_eq_ok_iff.1 h
      exact .command (readCommand_eq_ok_iff.1 hc)
    · rename_i rest hform
      obtain ⟨rfl, hgap⟩ := form_eq_guarded_iff.1 hform
      exact .guarded (readGuarded_sound hgap h)
    · rename_i rest hform
      obtain ⟨rfl, hgap⟩ := form_eq_loop_iff.1 hform
      exact .loop (readLoop_sound hgap h)
  · cases h with
    | loop h =>
      obtain ⟨rest, rfl, hgap, hread⟩ := readLoop_complete h
      rwa [readTrimmed, form_eq_loop_iff.2 ⟨rfl, hgap⟩]
    | guarded h =>
      obtain ⟨rest, rfl, hgap, hread⟩ := readGuarded_complete h
      rwa [readTrimmed, form_eq_guarded_iff.2 ⟨rfl, hgap⟩]
    | command h =>
      rw [readTrimmed, h.form_eq_plain, readCommand_eq_ok_iff.2 h]
      rfl

/-- **A statement is read from a text if and only if the grammar derives it from the text without
the blanks at its ends.** -/
theorem readStatement_eq_ok_iff {limit : UInt32} {cs : List Char} {st : Statement} :
    readStatement limit cs = .ok st ↔ ∃ t, Trims cs t ∧ Line limit t st := by
  rw [readStatement, readTrimmed_eq_ok_iff]
  refine ⟨fun h => ⟨_, trim_spec cs, h⟩, ?_⟩
  rintro ⟨t, ht, h⟩
  rwa [← trims_iff.1 ht]

example : readStatement 9 " for i in range(3): if x<5: walk 2 NORTH ".toList =
    .ok (.loop "i" 3 (.guarded ⟨"x", .lt, 5⟩ (.command (.walk .up 2)))) := by decide +kernel

example : readStatement 9 "for i in range(3): for j in range(3): stop".toList =
    .error (.unrecognized "for j in range(3): stop") := by decide +kernel

end GridScript.Script
