import GridScript.Proofs.Script.Statements

/-!
The parts of a statement: the whole of it, the body of a loop, and the body of a condition.

What stands before a part is empty or a header, or a header after a header. Each part is read on its
own, whatever it holds: `readTrimmed_append` says that the statement is then what the part makes of
it. So a statement that is read has a command for its last part, and an error is found in a part.
-/

namespace GridScript.Script

namespace Grammar

/-- Where a part of a statement stands. -/
inductive Level where
  | line
  | loopBody
  | guardedBody
deriving DecidableEq

/-- What stands before a part of a statement, and the statement that the part makes there. -/
inductive Before (limit : UInt32) : Level → List Char → (Statement → Statement) → Prop where
  | line : Before limit .line [] id
  | loop {front : List Char} {x : String} {n : UInt32} (h : ForHead limit front x n) :
    Before limit .loopBody front (.loop x n)
  | guarded {front : List Char} {condition : Condition} (h : IfHead front condition) :
    Before limit .guardedBody front (.guarded condition)
  | both {front front' : List Char} {x : String} {n : UInt32} {condition : Condition}
    (h : ForHead limit front x n) (h' : IfHead front' condition) :
    Before limit .guardedBody (front ++ front') (.loop x n ∘ .guarded condition)

/-- The statements that a part can be. -/
def Derives (limit : UInt32) : Level → List Char → Statement → Prop
  | .line => Line limit
  | .loopBody => LoopBody limit
  | .guardedBody => fun cs st => ∃ c, Cmd limit cs c ∧ st = .command c

end Grammar

open Grammar

variable {limit : UInt32} {cs front body : List Char}

/-- Reads a part of a statement. -/
def readAt (limit : UInt32) : Level → List Char → Reading Statement
  | .line => readTrimmed limit
  | .loopBody => readLoopBody limit
  | .guardedBody => readGuardedBody limit

lemma readAt_eq_ok_iff {k : Level} {st : Statement} :
    readAt limit k cs = .ok st ↔ Derives limit k cs st := by
  cases k with
  | line => exact readTrimmed_eq_ok_iff
  | loopBody => exact readLoopBody_eq_ok_iff
  | guardedBody => exact readGuardedBody_eq_ok_iff

/-! ### Parts are read on their own -/

lemma Grammar.ForHead.readTrimmed_append {x : String} {n : UInt32} (h : ForHead limit front x n)
    (hne : body ≠ []) (hbody : Stops IsGapChar body) :
    readTrimmed limit (front ++ body) = (readLoopBody limit body).map (.loop x n) := by
  obtain ⟨rest, name, ds, cs, hsrc, hgap, hstart, hcount, hrest, rfl⟩ := h.read hne hbody
  rw [readTrimmed, form_eq_loop_iff.2 ⟨hsrc, hgap⟩]
  exact readLoop_eq hstart hcount hrest

/-- A header begins with a name character. -/
lemma Grammar.IfHead.opens {condition : Condition} (h : IfHead front condition) (body : List Char) :
    front ++ body ≠ [] ∧ Stops IsGapChar (front ++ body) := by
  cases h
  exact ⟨by simp, (stops_cons (c := 'i')).2 (by simp [IsGapChar])⟩

/-- **A part is read on its own**: the statement is what its last part makes of it. -/
lemma Grammar.Before.readTrimmed_append {k : Level} {wrap : Statement → Statement}
    (h : Before limit k front wrap) (hne : body ≠ []) (hbody : Stops IsGapChar body) :
    readTrimmed limit (front ++ body) = (readAt limit k body).map wrap := by
  cases h with
  | line => exact (congrFun Except.map_id _).symm
  | loop h => exact h.readTrimmed_append hne hbody
  | guarded h =>
    obtain ⟨rest, hsrc, hgap, hread⟩ := h.read hne hbody
    rw [readTrimmed, form_eq_guarded_iff.2 ⟨hsrc, hgap⟩]
    exact hread limit _
  | both h h' =>
    obtain ⟨hne', hbody'⟩ := h'.opens body
    obtain ⟨rest, hsrc, hgap, hread⟩ := h'.read hne hbody
    rw [List.append_assoc, h.readTrimmed_append hne' hbody', readLoopBody,
      form_eq_guarded_iff.2 ⟨hsrc, hgap⟩]
    simp only [hread, readAt]
    cases readGuardedBody limit body <;> rfl

/-- Every statement has a command for its last part. -/
lemma line_iff_before {st : Statement} : Line limit cs st ↔ ∃ k front wrap body c,
    cs = front ++ body ∧ Before limit k front wrap ∧ Cmd limit body c ∧ st = wrap (.command c) := by
  refine ⟨fun h => ?_, ?_⟩
  · cases h with
    | command hc => exact ⟨.line, [], id, cs, _, rfl, .line, hc, rfl⟩
    | guarded h =>
      obtain ⟨front, condition, body, c, rfl, hhead, hc, rfl⟩ := if_iff_head.1 h
      exact ⟨.guardedBody, front, _, body, c, rfl, .guarded hhead, hc, rfl⟩
    | loop h =>
      obtain ⟨front, x, n, body, inner, rfl, hhead, hbody, rfl⟩ := for_iff_head.1 h
      cases hbody with
      | command hc => exact ⟨.loopBody, front, _, body, _, rfl, .loop hhead, hc, rfl⟩
      | guarded h =>
        obtain ⟨front', condition, body, c, rfl, hhead', hc, rfl⟩ := if_iff_head.1 h
        exact ⟨.guardedBody, _, _, body, c, (List.append_assoc _ _ _).symm, .both hhead hhead', hc,
          rfl⟩
  · rintro ⟨k, front, wrap, body, c, rfl, hbefore, hc, rfl⟩
    obtain ⟨hne, hbody⟩ := body_spec hc.not_stops
    have hpart : Derives limit k body (.command c) := by
      cases k with
      | line => exact .command hc
      | loopBody => exact .command hc
      | guardedBody => exact ⟨c, hc, rfl⟩
    rw [← readTrimmed_eq_ok_iff, hbefore.readTrimmed_append hne hbody, readAt_eq_ok_iff.2 hpart]
    rfl

end GridScript.Script
