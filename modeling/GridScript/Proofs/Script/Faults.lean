import GridScript.Proofs.Script.Lines
import GridScript.Proofs.Script.Parts
import GridScript.Session.Submission

/-!
What an error of the reader tells.

An error is about a part of a statement that has no form, about the header of a loop, about a
condition, or about a number, and its text is that very piece of the source. `Fault` lists the
causes, each with what is really wrong there: no error blames a piece that is in order.
-/

namespace GridScript.Script

namespace Grammar

/-- A part of a statement, which stands in it as it is. -/
def Part (limit : UInt32) (k : Level) (cs part : List Char) : Prop :=
  ∃ front wrap, cs = front ++ part ∧ Before limit k front wrap

/-- The text is read up to a gap. -/
def Token (t rest : List Char) : Prop :=
  (∀ c ∈ t, ¬IsGapChar c) ∧ Stops (fun c => ¬IsGapChar c) rest

/-- A number in a part of a statement that is no value of its field. -/
inductive BadNumber (limit : UInt32) : Level → List Char → List Char → Prop where
  /-- The steps of a walk, in any part. -/
  | steps {k : Level} {b t rest : List Char} (hb : Space b) (ht : Token t rest)
    (hbad : ∀ count : UInt32, Literal t count.toNat → ¬count ≤ limit) :
    BadNumber limit k ("walk".toList ++ b ++ t ++ rest) t
  /-- The time of a wait, in any part. -/
  | time {k : Level} {b t rest : List Char} (hb : Gap b)
    (keyword : Stops IsNameChar (b ++ t ++ rest)) (ht : Token t rest)
    (hbad : ∀ ms : UInt64, ¬Literal t ms.toNat) :
    BadNumber limit k ("wait".toList ++ b ++ t ++ rest) t
  /-- The number of a condition. -/
  | bound {k : Level} {g : Char} {front x b o b' ds e rest : List Char} {op : Comparison} {n : Nat}
    (hk : k ≠ .guardedBody) (hg : IsGapChar g) (hcolon : ':' ∉ front)
    (ht : Trims (g :: front) (x ++ b ++ o ++ b' ++ ds ++ e)) (hx : Name x) (hb : Gap b)
    (ho : Operator o op) (hb' : Gap b') (hn : Numeral ds n) (he : Stops IsDigit e)
    (hbad : 2 ^ 63 ≤ n) :
    BadNumber limit k ("if".toList ++ [g] ++ front ++ [':'] ++ rest) ds
  /-- The rounds of a loop. -/
  | rounds {b₁ x b₂ b₃ b₄ b₅ ds rest : List Char} {n : Nat} (h₁ : Space b₁) (hx : Name x)
    (h₂ : Space b₂) (h₃ : Space b₃) (h₄ : Gap b₄) (h₅ : Gap b₅) (hn : Numeral ds n)
    (hrest : Stops IsDigit rest) (hbad : ∀ count : UInt32, count.toNat = n → ¬count ≤ limit) :
    BadNumber limit .line
      ("for".toList ++ b₁ ++ x ++ b₂ ++ "in".toList ++ b₃ ++ "range".toList ++ b₄ ++ ['('] ++ b₅ ++
        ds ++ rest) ds

/-- What is wrong with a text that is no statement. -/
inductive Fault (limit : UInt32) (cs : List Char) : ParseError → Prop where
  /-- A part of no form, or of one that it cannot have there. -/
  | unrecognized {k : Level} {part : List Char} (hpart : Part limit k cs part)
    (hno : ∀ st, ¬Derives limit k part st) : Fault limit cs (.unrecognized (String.ofList part))
  /-- A loop without a header, or with nothing behind it. -/
  | loop {g : Char} {rest : List Char} (hcs : cs = "for".toList ++ [g] ++ rest) (hg : IsGapChar g)
    (hno : ∀ front x n body, cs = front ++ body → ForHead limit front x n → Gap body) :
    Fault limit cs (.malformedLoop (String.ofList cs))
  /-- A condition without a colon, or with nothing behind it. -/
  | guarded {k : Level} {g : Char} {part rest : List Char} (hpart : Part limit k cs part)
    (hk : k ≠ .guardedBody) (hcs : part = "if".toList ++ [g] ++ rest) (hg : IsGapChar g)
    (hno : ∀ front body, rest = front ++ [':'] ++ body → ':' ∉ front → Gap body) :
    Fault limit cs (.malformedCondition (String.ofList part))
  /-- A condition that is none. -/
  | condition {k : Level} {g : Char} {front rest t : List Char}
    (hpart : Part limit k cs ("if".toList ++ [g] ++ front ++ [':'] ++ rest)) (hk : k ≠ .guardedBody)
    (hg : IsGapChar g) (hcolon : ':' ∉ front) (ht : Trims (g :: front) t)
    (hno : ∀ condition, ¬Cond t condition) :
    Fault limit cs (.malformedCondition (String.ofList t))
  | number {k : Level} {part t : List Char} (hpart : Part limit k cs part)
    (hno : BadNumber limit k part t) : Fault limit cs (.badNumber (String.ofList t))

end Grammar

open Grammar

variable {limit : UInt32} {cs part : List Char} {e : ParseError}

/-! ### Errors of the small readers -/

lemma orElse_eq_error_iff {e' : ParseError} {o : Option α} :
    orElse e' o = .error e ↔ o = none ∧ e' = e := by
  cases o <;> simp [orElse]

lemma bind_eq_error_iff {x : Reading α} {f : α → Reading β} :
    (x >>= f) = .error e ↔ x = .error e ∨ ∃ a, x = .ok a ∧ f a = .error e := by
  cases x <;> simp [bind, Except.bind]

lemma map_eq_error_iff {x : Reading α} {f : α → β} : x.map f = .error e ↔ x = .error e := by
  cases x <;> simp [Except.map]

lemma eq_of_readCount (h : readCount limit cs = .error e) :
    e = .badNumber (String.ofList cs) ∧
      ∀ count : UInt32, Literal cs count.toNat → ¬count ≤ limit := by
  refine ⟨(orElse_eq_error_iff.1 h).2.symm, fun count hn hlimit => ?_⟩
  rw [readCount_eq_ok_iff.2 ⟨hn, hlimit⟩] at h
  cases h

lemma eq_of_readMillis (h : readMillis cs = .error e) :
    e = .badNumber (String.ofList cs) ∧ ∀ ms : UInt64, ¬Literal cs ms.toNat := by
  refine ⟨(orElse_eq_error_iff.1 h).2.symm, fun ms hn => ?_⟩
  rw [readMillis_eq_ok_iff.2 hn] at h
  cases h

lemma eq_of_readBound (h : readBound cs = .error e) :
    e = .badNumber (String.ofList cs) ∧ ∀ n, Numeral cs n → 2 ^ 63 ≤ n := by
  refine ⟨(orElse_eq_error_iff.1 h).2.symm, fun n hn => Nat.le_of_not_lt fun hlt => ?_⟩
  rw [readBound_eq_ok_iff.2 ⟨n, hn, hlt, rfl⟩] at h
  cases h

/-! ### Commands -/

/-- A command is at fault for a number, or it has no form at all. -/
lemma fault_readKeyworded (k : Level) {w : String} {rest : List Char}
    (hrest : Stops IsNameChar rest)
    (h : readKeyworded limit (w.toList ++ rest) w rest = .error e) :
    e = unrecognized (w.toList ++ rest) ∨
      ∃ t, e = .badNumber (String.ofList t) ∧ BadNumber limit k (w.toList ++ rest) t := by
  have hif : ∀ {c : Command},
      (if isDone rest then .ok c else .error (unrecognized (w.toList ++ rest)) : Reading Command) =
        .error e → e = unrecognized (w.toList ++ rest) := by
    intro c hc
    split at hc
    · cases hc
    · exact (Except.error.inj hc).symm
  unfold readKeyworded at h
  split at h
  case h_1 | h_2 => exact .inl (orElse_eq_error_iff.1 h).2.symm
  case h_3 =>
    simp only [readWalk, bind_eq_error_iff, orElse_eq_error_iff, orElse_eq_ok_iff] at h
    rcases h with ⟨-, rfl⟩ | ⟨r, hgap, hcount | ⟨count, -, ⟨-, rfl⟩ | ⟨d, -, hpure⟩⟩⟩
    · exact .inl rfl
    · obtain ⟨b, rfl, hb, -⟩ := gap?_eq_some_iff.1 hgap
      obtain ⟨rfl, hbad⟩ := eq_of_readCount hcount
      obtain ⟨hr, ht⟩ := token_split r
      have hfault : BadNumber limit k _ _ := .steps hb ht hbad
      rw [List.append_assoc _ _ (token r).2, ← hr, List.append_assoc] at hfault
      exact .inr ⟨_, rfl, hfault⟩
    · exact .inl rfl
    · cases hpure
  case h_4 =>
    unfold readWait at h
    split at h
    · cases h
    · rcases bind_eq_error_iff.1 h with hms | ⟨ms, -, hend⟩
      · obtain ⟨rfl, hbad⟩ := eq_of_readMillis hms
        obtain ⟨b, hsplit, hb, -⟩ := skipGap_split rest
        obtain ⟨hr, ht⟩ := token_split (skipGap rest)
        have hall : rest = b ++ (token (skipGap rest)).1 ++ (token (skipGap rest)).2 := by
          rw [List.append_assoc, ← hr, ← hsplit]
        have hfault : BadNumber limit k _ _ := .time hb (hall ▸ hrest) ht hbad
        rw [List.append_assoc, List.append_assoc, ← List.append_assoc b, ← hall] at hfault
        exact .inr ⟨_, rfl, hfault⟩
      · split at hend
        · cases hend
        · exact .inl (Except.error.inj hend).symm
  case h_5 =>
    unfold readPrint at h
    split at h
    · cases h
    · exact .inl (Except.error.inj h).symm
  case h_6 | h_7 => exact .inl (hif h)
  case h_8 => exact .inl (Except.error.inj h).symm

lemma fault_readCommand (k : Level) (h : readCommand limit part = .error e) :
    e = unrecognized part ∨
      ∃ t, e = .badNumber (String.ofList t) ∧ BadNumber limit k part t := by
  cases hcall : after? "player.move" part with
  | some rest =>
    rw [readCommand, hcall] at h
    exact .inl (orElse_eq_error_iff.1 h).2.symm
  | none =>
    obtain ⟨hsplit, -, hstops⟩ := word_split part
    have hpart : (String.ofList (word part).1).toList ++ (word part).2 = part := by
      rw [String.toList_ofList, ← hsplit]
    rw [readCommand_eq_readKeyworded hcall] at h
    have hfault := fault_readKeyworded k (w := String.ofList (word part).1) hstops
      (by rwa [hpart])
    rwa [hpart] at hfault

/-! ### Parts -/

lemma Grammar.Part.of_ifHead {k : Level} {front body : List Char} {condition : Condition}
    (h : Part limit k cs (front ++ body)) (hk : k ≠ .guardedBody) (hhead : IfHead front condition) :
    Part limit .guardedBody cs body := by
  obtain ⟨head, wrap, rfl, hbefore⟩ := h
  cases hbefore with
  | line => exact ⟨front, _, rfl, .guarded hhead⟩
  | loop hloop => exact ⟨_, _, (List.append_assoc _ _ _).symm, .both hloop hhead⟩
  | guarded | both => exact absurd rfl hk

/-- A part that cannot be read has no form that it could have there. -/
lemma not_derives {k : Level} (h : readAt limit k part = .error e) (st : Statement) :
    ¬Derives limit k part st := fun hst => by
  rw [readAt_eq_ok_iff.2 hst] at h
  cases h

lemma fault_command {k : Level} (hpart : Part limit k cs part)
    (h : (readCommand limit part).map Statement.command = .error e)
    (hno : ∀ st, ¬Derives limit k part st) :
    Fault limit cs e := by
  rcases fault_readCommand k (map_eq_error_iff.1 h) with rfl | ⟨t, rfl, hbad⟩
  · exact .unrecognized hpart hno
  · exact .number hpart hbad

lemma fault_guardedBody (hpart : Part limit .guardedBody cs part)
    (h : readGuardedBody limit part = .error e) : Fault limit cs e := by
  have hno := not_derives (k := .guardedBody) h
  unfold readGuardedBody at h
  split at h
  · exact fault_command hpart h hno
  · obtain rfl := Except.error.inj h
    exact .unrecognized hpart hno

/-! ### Conditions -/

/-- A condition is at fault for its number, or it is none. -/
lemma fault_readCondition (h : readCondition cs = .error e) :
    (e = .malformedCondition (String.ofList cs) ∧ ∀ condition, ¬Cond cs condition) ∨
      ∃ x b o op b' ds rest n, cs = x ++ b ++ o ++ b' ++ ds ++ rest ∧
        e = .badNumber (String.ofList ds) ∧ Name x ∧ Gap b ∧ Operator o op ∧ Gap b' ∧
          Numeral ds n ∧ Stops IsDigit rest ∧ 2 ^ 63 ≤ n := by
  have hno : ∀ condition, ¬Cond cs condition := fun condition hc => by
    rw [readCondition_eq_ok_iff.2 ⟨cs, [], (List.append_nil cs).symm, by simp [Gap], hc⟩] at h
    cases h
  simp only [readCondition, bind_eq_error_iff, orElse_eq_error_iff, orElse_eq_ok_iff] at h
  rcases h with ⟨-, rfl⟩ | ⟨⟨x, op, ds, rest⟩, hparts, hbound | ⟨v, -, hend⟩⟩
  · exact .inl ⟨rfl, hno⟩
  · obtain ⟨rfl, hbad⟩ := eq_of_readBound hbound
    obtain ⟨b, o, b', rfl, hx, hb, ho, hb', hne, hds, hrest⟩ := conditionParts?_eq_some_iff.1 hparts
    exact .inr ⟨x, b, o, op, b', ds, rest, _, by simp, rfl, hx, hb, ho, hb', .mk hne hds, hrest,
      hbad _ (.mk hne hds)⟩
  · split at hend
    · cases hend
    · exact .inl ⟨(Except.error.inj hend).symm, hno⟩

lemma exists_gap {rest : List Char} (h : ¬Stops IsGapChar rest) :
    ∃ g rest', rest = g :: rest' ∧ IsGapChar g := by
  rcases rest with _ | ⟨g, rest⟩
  · exact absurd stops_nil h
  · exact ⟨g, rest, rfl, by simpa [stops_cons] using h⟩

lemma fault_readGuarded {k : Level} {rest : List Char} (hpart : Part limit k cs part)
    (hk : k ≠ .guardedBody) (hform : form part = .guarded rest)
    (h : readGuarded limit part rest = .error e) : Fault limit cs e := by
  obtain ⟨rfl, hgap⟩ := form_eq_guarded_iff.1 hform
  obtain ⟨g, rest, rfl, hg⟩ := exists_gap hgap
  have hopen : "if".toList ++ g :: rest = "if".toList ++ [g] ++ rest := List.append_cons ..
  -- the gap is no colon, so the first colon is where a header has it
  have hcolon : ∀ {front body}, rest = front ++ [':'] ++ body → ':' ∉ front →
      atColon? (g :: rest) = some (g :: front, body) := by
    rintro front body rfl hnot
    refine atColon?_eq_some_iff.2 ⟨by simp, fun hmem => ?_⟩
    rcases List.mem_cons.1 hmem with rfl | hmem
    · simp [IsGapChar] at hg
    · exact hnot hmem
  simp only [readGuarded, bind_eq_error_iff, orElse_eq_error_iff, orElse_eq_ok_iff] at h
  rcases h with ⟨hnone, rfl⟩ | ⟨⟨front, r⟩, hsome, hcond | ⟨condition, hcond, hend⟩⟩
  · refine .guarded hpart hk hopen hg fun front body hrest hnot => ?_
    rw [hcolon hrest hnot] at hnone
    cases hnone
  · obtain ⟨hsplit, hnot⟩ := atColon?_eq_some_iff.1 hsome
    obtain ⟨front, rfl⟩ : ∃ front', front = g :: front' := by
      rcases front with _ | ⟨c, front⟩
      · simp at hsplit
        simp [IsGapChar, hsplit.1] at hg
      · exact ⟨front, by rw [(List.cons.inj hsplit).1]⟩
    have hsrc : "if".toList ++ g :: rest = "if".toList ++ [g] ++ front ++ [':'] ++ r := by
      simp [(List.cons.inj hsplit).2]
    have hfront : ':' ∉ front := fun hmem => hnot (List.mem_cons_of_mem _ hmem)
    rw [hsrc] at hpart
    rcases fault_readCondition hcond with ⟨rfl, hno⟩ |
      ⟨x, b, o, op, b', ds, rest', n, htrim, rfl, hx, hb, ho, hb', hn, hrest, hbad⟩
    · exact .condition hpart hk hg hfront (trim_spec _) hno
    · exact .number hpart (.bound hk hg hfront (trims_iff.2 htrim.symm) hx hb ho hb' hn hrest hbad)
  · split at hend
    · rename_i hdone
      obtain rfl := Except.error.inj hend
      refine .guarded hpart hk hopen hg fun front' body hrest hnot => ?_
      rw [hcolon hrest hnot] at hsome
      obtain ⟨-, rfl⟩ := Prod.mk.inj (Option.some.inj hsome)
      exact isDone_iff.1 hdone
    · obtain ⟨head, hhead, hcondition⟩ := ifHead_of_parts hgap hsome hcond
      rw [hhead] at hpart
      exact fault_guardedBody (hpart.of_ifHead hk hcondition) (map_eq_error_iff.1 hend)

lemma fault_loopBody (hpart : Part limit .loopBody cs part)
    (h : readLoopBody limit part = .error e) : Fault limit cs e := by
  have hno := not_derives (k := .loopBody) h
  unfold readLoopBody at h
  split at h
  · exact fault_command hpart h hno
  · rename_i hform
    exact fault_readGuarded hpart (by decide) hform h
  · obtain rfl := Except.error.inj h
    exact .unrecognized hpart hno

/-! ### Loops -/

lemma Grammar.ForHead.append_gap {front b : List Char} {x : String} {n : UInt32}
    (h : ForHead limit front x n) (hb : Gap b) : ForHead limit (front ++ b) x n := by
  cases h with
  | mk h₁ hx h₂ h₃ h₄ h₅ hn hlimit h₆ h₇ h₈ =>
    rw [List.append_assoc _ _ b]
    exact .mk h₁ hx h₂ h₃ h₄ h₅ hn hlimit h₆ h₇ (List.forall_mem_append.2 ⟨h₈, hb⟩)

/-- Where no body is found, there is nothing behind a header. -/
lemma gap_of_forHead {front body rest : List Char} {x : String} {n : UInt32}
    (hsrc : "for".toList ++ rest = front ++ body) (h : ForHead limit front x n)
    (hno : ∀ name ds cs b, loopStart? rest = some (name, ds, cs) → loopBody? cs ≠ some b) :
    Gap body := by
  obtain ⟨b, hbody, hb, hstops⟩ := skipGap_split body
  by_cases hne : skipGap body = []
  · rw [hne, List.append_nil] at hbody
    exact hbody ▸ hb
  · obtain ⟨rest', name, ds, cs, hsrc', -, hstart, -, hloop, -⟩ :=
      (h.append_gap hb).read hne hstops
    rw [List.append_assoc, ← hbody, ← hsrc, List.append_cancel_left_eq] at hsrc'
    subst hsrc'
    exact absurd hloop (hno _ _ _ _ hstart)

lemma fault_readLoop {rest : List Char} (hform : form cs = .loop rest)
    (h : readLoop limit cs rest = .error e) : Fault limit cs e := by
  obtain ⟨hsrc, hgap⟩ := form_eq_loop_iff.1 hform
  have hloop : (∀ name ds cs b, loopStart? rest = some (name, ds, cs) → loopBody? cs ≠ some b) →
      Fault limit cs (.malformedLoop (String.ofList cs)) := by
    intro hno
    obtain ⟨g, rest', rfl, hg⟩ := exists_gap hgap
    exact .loop (hsrc.trans (List.append_cons ..)) hg fun front x n body hcs hhead =>
      gap_of_forHead (hsrc.symm.trans hcs) hhead hno
  simp only [readLoop, bind_eq_error_iff, orElse_eq_error_iff, orElse_eq_ok_iff] at h
  rcases h with ⟨hnone, rfl⟩ |
    ⟨⟨x, ds, r⟩, hstart, hcount | ⟨n, hcount, ⟨hnone, rfl⟩ | ⟨body, hbody, hmap⟩⟩⟩
  · refine hloop fun name ds r b hsome => ?_
    rw [hnone] at hsome
    cases hsome
  · obtain ⟨rfl, hbad⟩ := eq_of_readCount hcount
    obtain ⟨b₁, b₂, b₃, b₄, b₅, hrest, h₁, hx, h₂, h₃, h₄, h₅, hne, hds, hr⟩ :=
      loopStart?_eq_some_iff.1 hstart
    have hspace : Space b₁ := by
      refine ⟨?_, h₁⟩
      rintro rfl
      exact hgap (hrest ▸ hx.stops_gapChar)
    have hnumber : BadNumber limit .line _ _ :=
      .rounds hspace hx h₂ h₃ h₄ h₅ (.mk hne hds) hr fun count hvalue =>
        hbad count (.plain (hvalue ▸ .mk hne hds))
    refine .number ⟨[], id, ?_, .line⟩ hnumber
    rw [hsrc, hrest]
    simp
  · refine hloop fun name ds' r' b hsome => ?_
    obtain ⟨-, hpair⟩ := Prod.mk.inj (Option.some.inj (hstart.symm.trans hsome))
    rw [← (Prod.mk.inj hpair).2, hnone]
    exact (Option.some_ne_none b).symm
  · obtain ⟨head, hhead, hfor⟩ := forHead_of_parts hgap hstart hcount hbody
    exact fault_loopBody ⟨head, _, hsrc.trans hhead, .loop hfor⟩ (map_eq_error_iff.1 hmap)

/-! ### Statements -/

lemma fault_readTrimmed (h : readTrimmed limit cs = .error e) : Fault limit cs e := by
  have hno := not_derives (k := .line) h
  have hpart : Part limit .line cs cs := ⟨[], id, rfl, .line⟩
  unfold readTrimmed at h
  split at h
  · exact fault_command hpart h hno
  · rename_i hform
    exact fault_readGuarded hpart (by decide) hform h
  · rename_i hform
    exact fault_readLoop hform h

lemma fault_readStatement (h : readStatement limit cs = .error e) : Fault limit (Text.trim cs) e :=
  fault_readTrimmed h

/-! ### The text of an error -/

lemma Grammar.Trims.isInfix {t : List Char} (h : Trims cs t) : t <:+: cs := by
  obtain ⟨a, z, hsplit, -, -⟩ := h.split
  exact ⟨a, z, hsplit.symm⟩

lemma Grammar.Part.isSuffix {k : Level} (h : Part limit k cs part) : part <:+ cs := by
  obtain ⟨front, -, hcs, -⟩ := h
  exact ⟨front, hcs.symm⟩

/-- The header of a condition stands in front of its colon. -/
lemma isInfix_header {g : Char} {w front rest t : List Char} (h : t <:+: g :: front) :
    t <:+: w ++ [g] ++ front ++ [':'] ++ rest :=
  h.trans ⟨w, [':'] ++ rest, by simp⟩

lemma Grammar.BadNumber.isInfix {k : Level} {t : List Char} (h : BadNumber limit k part t) :
    t <:+: part := by
  cases h with
  | steps | time | rounds => exact List.infix_append _ _ _
  | bound hk hg hcolon ht =>
    exact isInfix_header ((List.infix_append _ _ _).trans ht.isInfix)

/-- The text of an error is a piece of the source. -/
lemma Grammar.Fault.isInfix (h : Fault limit cs e) : e.text.toList <:+: cs := by
  cases h with
  | unrecognized hpart | guarded hpart =>
    simpa [ParseError.text] using hpart.isSuffix.isInfix
  | loop => simp [ParseError.text]
  | condition hpart hk hg hcolon ht =>
    simpa [ParseError.text] using (isInfix_header ht.isInfix).trans hpart.isSuffix.isInfix
  | number hpart hbad => simpa [ParseError.text] using hbad.isInfix.trans hpart.isSuffix.isInfix

/-- A member of a line is a piece of it without blanks at its ends. -/
lemma isInfix_of_mem_lineParts (h : part ∈ lineParts cs) :
    part <:+: Text.trim cs ∧ Text.trim part = part := by
  simp only [lineParts] at h
  split at h
  · rw [List.mem_singleton.1 h]
    exact ⟨List.infix_rfl, trim_trim cs⟩
  · obtain ⟨piece, hpiece, rfl⟩ := List.mem_map.1 (List.mem_filter.1 h).1
    exact ⟨(trim_spec piece).isInfix.trans (Text.infix_of_mem_split hpiece), trim_trim piece⟩

lemma mem_errors_iff {parts : List (Reading α)} : e ∈ errors parts ↔ .error e ∈ parts := by
  simp only [errors, List.mem_filterMap]
  constructor
  · rintro ⟨r, hr, he⟩
    cases r with
    | ok => cases he
    | error => exact Option.some.inj he ▸ hr
  · exact fun h => ⟨_, h, rfl⟩

/-- An error of a line is one of a member. -/
lemma fault_of_mem_errors (h : e ∈ errors (readLine limit cs)) :
    ∃ part ∈ lineParts cs, part <:+: Text.trim cs ∧ readStatement limit part = .error e ∧
      e.text.toList <:+: part ∧ Fault limit part e := by
  obtain ⟨part, hmem, hread⟩ := List.mem_map.1 (mem_errors_iff.1 h)
  obtain ⟨hpiece, htrim⟩ := isInfix_of_mem_lineParts hmem
  have hfault := fault_readStatement hread
  rw [htrim] at hfault
  exact ⟨part, hmem, hpiece, hread, hfault.isInfix, hfault⟩

/-- **Errors are faithful**: an error of a statement is about a piece of its trimmed source in which
what the error names is really wrong, and an error of a line is one of these about a member. -/
theorem fault_of_error (limit : UInt32) (cs : List Char) :
    (∀ e, readStatement limit cs = .error e →
      e.text.toList <:+: Text.trim cs ∧ Fault limit (Text.trim cs) e) ∧
    ∀ e ∈ errors (readLine limit cs), ∃ part ∈ lineParts cs, part <:+: Text.trim cs ∧
      readStatement limit part = .error e ∧ e.text.toList <:+: part ∧ Fault limit part e := by
  refine ⟨fun e h => ?_, fun e => fault_of_mem_errors⟩
  have hfault := fault_readStatement h
  exact ⟨hfault.isInfix, hfault⟩

/-- A condition whose number is too large, in a loop. -/
def hugeBound : List Char := "  for i in range(2): if i > 9223372036854775808: walk 3 up".toList

theorem fault_of_error_hugeBound :
    readStatement 3 hugeBound = .error (.badNumber "9223372036854775808") ∧
      Fault 3 (Text.trim hugeBound) (.badNumber "9223372036854775808") := by
  have hread : readStatement 3 hugeBound = .error (.badNumber "9223372036854775808") := by
    decide +kernel
  exact ⟨hread, ((fault_of_error 3 hugeBound).1 _ hread).2⟩

end GridScript.Script
