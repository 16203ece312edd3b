import GridScript.Proofs.Script.Writing
import GridScript.Session.Submission

/-!
What a higher limit on repeats changes in what is read.

The limit is asked at each count and nowhere else, and a count above it ends the reading. So under a
lower limit a text is read as under a higher one, or the reading stops at a number between the two:
`Raised`. What is read after a count depends on the count alone, so binding keeps that relation, and
it goes up from the counts to the lines.
-/

namespace GridScript

/-- The number of steps in a command, if it has one. -/
def Command.counts : Command → List UInt32
  | walk _ count => [count]
  | _ => []

/-- The numbers of rounds and steps in a statement. -/
def Statement.counts : Statement → List UInt32
  | command c => c.counts
  | loop _ count body => count :: body.counts
  | guarded _ body => body.counts

namespace Script

open Grammar

/-- Two readings of a text, the first under a lower limit: they agree, or the first has stopped at a
number which only the second admits. -/
inductive Raised (low high : UInt32) : Reading α → Reading α → Prop where
  | same (x : Reading α) : Raised low high x x
  | beyond {t : String} {n : Nat} (y : Reading α) (ht : Literal t.toList n) (hlow : low.toNat < n)
    (hhigh : n ≤ high.toNat) : Raised low high (.error (.badNumber t)) y

namespace Raised

variable {low high : UInt32}

lemma bind {x y : Reading α} {f g : α → Reading β} (h : Raised low high x y)
    (hfg : ∀ a, Raised low high (f a) (g a)) : Raised low high (x >>= f) (y >>= g) := by
  cases h with
  | same =>
    cases x with
    | ok a => exact hfg a
    | error e => exact .same _
  | beyond y ht hlow hhigh => exact .beyond _ ht hlow hhigh

lemma map {x y : Reading α} (h : Raised low high x y) (f : α → β) :
    Raised low high (x.map f) (y.map f) := by
  cases h with
  | same => exact .same _
  | beyond y ht hlow hhigh => exact .beyond _ ht hlow hhigh

/-- What is read under the lower limit is read under the higher one. -/
lemma ok {a : α} {y : Reading α} (h : Raised low high (.ok a) y) : y = .ok a := by
  cases h with
  | same => rfl

end Raised

section Limits

variable {low high : UInt32}

lemma raised_readCount (h : low ≤ high) (cs : List Char) :
    Raised low high (readCount low cs) (readCount high cs) := by
  unfold readCount
  cases hword : (Text.unsigned? cs).bind Text.word32? with
  | none => exact .same _
  | some count =>
    obtain ⟨n, hn, hcount⟩ := Option.bind_eq_some_iff.1 hword
    obtain rfl := word32?_eq_some_iff.1 hcount
    by_cases hlow : count ≤ low
    · have hhigh : count ≤ high := UInt32.le_trans hlow h
      simp only [Option.filter_some, hlow, hhigh]
      exact .same _
    · have hlt : low.toNat < count.toNat := Nat.lt_of_not_le fun hle => hlow hle
      by_cases hhigh : count ≤ high
      · simp only [Option.filter_some, hlow]
        refine .beyond _ ?_ hlt (UInt32.le_iff_toNat_le.1 hhigh)
        rw [String.toList_ofList]
        exact unsigned?_eq_some_iff.1 hn
      · simp only [Option.filter_some, hlow, hhigh]
        exact .same _

variable (h : low ≤ high) (src : List Char)

include h

lemma raised_readCommand : Raised low high (readCommand low src) (readCommand high src) := by
  cases hcall : after? "player.move" src with
  | some rest =>
    rw [readCommand, readCommand, hcall]
    exact .same _
  | none =>
    rw [readCommand_eq_readKeyworded hcall, readCommand_eq_readKeyworded hcall]
    generalize String.ofList (word src).1 = k
    unfold readKeyworded
    split
    case h_3 =>
      -- only a walk has a count
      refine .bind (.same _) fun rest => .bind (raised_readCount h _) fun count => .same _
    all_goals exact .same _

lemma raised_readGuardedBody :
    Raised low high (readGuardedBody low src) (readGuardedBody high src) := by
  unfold readGuardedBody
  split
  · exact (raised_readCommand h src).map _
  · exact .same _

lemma raised_readGuarded (rest : List Char) :
    Raised low high (readGuarded low src rest) (readGuarded high src rest) := by
  refine .bind (.same _) fun parts => .bind (.same _) fun condition => ?_
  split
  · exact .same _
  · exact (raised_readGuardedBody h _).map _

lemma raised_readLoopBody : Raised low high (readLoopBody low src) (readLoopBody high src) := by
  unfold readLoopBody
  split
  · exact (raised_readCommand h src).map _
  · exact raised_readGuarded h src _
  · exact .same _

lemma raised_readLoop (rest : List Char) :
    Raised low high (readLoop low src rest) (readLoop high src rest) :=
  .bind (.same _) fun _ => .bind (raised_readCount h _) fun _ => .bind (.same _) fun body =>
    (raised_readLoopBody h body).map _

lemma raised_readStatement :
    Raised low high (readStatement low src) (readStatement high src) := by
  unfold readStatement readTrimmed
  split
  · exact (raised_readCommand h _).map _
  · exact raised_readGuarded h _ _
  · exact raised_readLoop h _ _

end Limits

/-! ### Lines -/

section Lines

variable {low high : UInt32}

/-- If nothing is wrong under the lower limit, the readings are the same. -/
lemma eq_of_raised {xs ys : List (Reading Statement)} (h : List.Forall₂ (Raised low high) xs ys)
    (hxs : errors xs = []) : ys = xs := by
  induction h with
  | nil => rfl
  | @cons x y xs ys hxy _ ih =>
    cases x with
    | ok st => rw [hxy.ok, ih hxs]
    | error e => cases hxs

lemma counts_le {limit : UInt32} {st : Statement} (h : st.Nested limit) :
    ∀ n ∈ st.counts, n ≤ limit := by
  have hcommand : ∀ c : Command, c.Within limit → ∀ n ∈ c.counts, n ≤ limit := by
    intro c hc n hn
    cases c with
    | walk d count => exact List.mem_singleton.1 hn ▸ hc
    | move | turn | wait | print | clear => cases hn
  have hbody : ∀ st : Statement, st.Body limit → ∀ n ∈ st.counts, n ≤ limit := by
    intro st hst
    cases hst with
    | command hc => exact hcommand _ hc
    | guarded hst =>
      cases hst with
      | mk _ hc => exact hcommand _ hc
  cases h with
  | loop _ hcount hst => exact List.forall_mem_cons.2 ⟨hcount, hbody _ hst⟩
  | body hst => exact hbody _ hst

lemma nested_of_mem_readLine {limit : UInt32} {cs : List Char} {st : Statement}
    (h : .ok st ∈ readLine limit cs) : st.Nested limit := by
  obtain ⟨part, -, hpart⟩ := List.mem_map.1 h
  exact nested_of_readStatement hpart

/-- **A limit on repeats only turns what is read into a bad number**: under a lower limit a line has
the same parts, and each is read as under the higher limit or found to be a number between the two.
So each statement that is read stays as it is when the limit is raised, and a line without errors
stays without errors. No count in a statement that is read is above the limit. -/
theorem readLine_of_limit_le (h : low ≤ high) (cs : List Char) :
    (readLine low cs).length = (readLine high cs).length ∧
      List.Forall₂ (Raised low high) (readLine low cs) (readLine high cs) ∧
      (∀ (i : ℕ) (st : Statement), (readLine low cs)[i]? = some (.ok st) →
        (readLine high cs)[i]? = some (.ok st)) ∧
      (errors (readLine low cs) = [] → readLine high cs = readLine low cs) ∧
      ∀ st : Statement, .ok st ∈ readLine low cs → ∀ n ∈ st.counts, n ≤ low := by
  have hraised : List.Forall₂ (Raised low high) (readLine low cs) (readLine high cs) := by
    rw [readLine, readLine, List.forall₂_map_left_iff, List.forall₂_map_right_iff,
      List.forall₂_same]
    exact fun part _ => raised_readStatement h part
  refine ⟨hraised.length_eq, hraised, fun i st hi => ?_, eq_of_raised hraised,
    fun st hst => counts_le (nested_of_mem_readLine hst)⟩
  rw [readLine, List.getElem?_map, Option.map_eq_some_iff] at hi ⊢
  obtain ⟨part, hpart, hread⟩ := hi
  exact ⟨part, hpart, (hread ▸ raised_readStatement h part).ok⟩

/-- A number above the lower limit hides what is wrong behind it, and a number above both stays an
error. -/
theorem readLine_of_limit_le_hidden :
    (3 : UInt32) ≤ 5 ∧
      readLine 3 "for i in range(4): walk 9 up".toList = [.error (.badNumber "4")] ∧
      readLine 5 "for i in range(4): walk 9 up".toList = [.error (.badNumber "9")] ∧
      (readLine 3 "walk 2 up; walk +05 up; jump".toList).length = 3 ∧
      List.Forall₂ (Raised 3 5) (readLine 3 "walk 2 up; walk +05 up; jump".toList)
        [.ok (.command (.walk .up 2)), .ok (.command (.walk .up 5)),
          .error (.unrecognized "jump")] := by
  have hle : (3 : UInt32) ≤ 5 := by decide
  have hline : readLine 5 "walk 2 up; walk +05 up; jump".toList =
      [.ok (.command (.walk .up 2)), .ok (.command (.walk .up 5)),
        .error (.unrecognized "jump")] := by decide +kernel
  obtain ⟨hlength, hraised, -⟩ := readLine_of_limit_le hle "walk 2 up; walk +05 up; jump".toList
  rw [hline] at hlength hraised
  exact ⟨hle, by decide +kernel, by decide +kernel, hlength, hraised⟩

end Lines

end Script

end GridScript
