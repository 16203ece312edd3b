import GridScript.Proofs.Script.Lines
import GridScript.Proofs.Session.Effects
import GridScript.Proofs.World.Obstacles

/-!
Lines that are joined by a separator.

The members of a line are the texts between its separators, without blanks at their ends and without
those that are blank. Blanks at the ends of the line do not matter for them, though a line feed is
both a blank and a separator, and a separator parts the members on its two sides. So two lines can
share one unless one of them claims the whole line, as a loop or a condition does.
-/

namespace GridScript

namespace Script

open Grammar

/-! ### Members -/

/-- The texts between the separators of a line that are not blank. -/
def members (cs : List Char) : List (List Char) :=
  ((Text.split isSeparator cs).map Text.trim).filter (! ·.isEmpty)

lemma Grammar.Trims.concat {b : Char} {cs t : List Char} (hb : Text.isBlank b = true)
    (h : Trims cs t) : Trims (cs ++ [b]) t := by
  obtain ⟨⟨a, z, rfl, ha, hz⟩, hhead, hlast⟩ := h
  refine ⟨⟨a, z ++ [b], by simp, ha, ?_⟩, hhead, hlast⟩
  simpa [or_imp, forall_and] using ⟨hz, hb⟩

lemma trim_cons {b : Char} (hb : Text.isBlank b = true) (cs : List Char) :
    Text.trim (b :: cs) = Text.trim cs :=
  (trims_iff.1 ((trim_spec cs).cons hb)).symm

lemma trim_concat {b : Char} (hb : Text.isBlank b = true) (cs : List Char) :
    Text.trim (cs ++ [b]) = Text.trim cs :=
  (trims_iff.1 ((trim_spec cs).concat hb)).symm

@[simp] lemma members_nil : members [] = [] := rfl

lemma members_append_separator {c : Char} (hc : isSeparator c = true) (a b : List Char) :
    members (a ++ c :: b) = members a ++ members b := by
  rw [members, Text.split_append_separator hc, List.map_append, List.filter_append]
  rfl

lemma members_of_whole {cs : List Char} (h : ∀ c ∈ cs, isSeparator c = false) :
    members cs = [Text.trim cs].filter (! ·.isEmpty) := by
  rw [members, Text.split_eq_singleton h, List.map_singleton]

lemma members_cons {b : Char} (hb : Text.isBlank b = true) (cs : List Char) :
    members (b :: cs) = members cs := by
  by_cases hsep : isSeparator b = true
  · exact members_append_separator hsep [] cs
  · obtain ⟨w, ws, hw⟩ := List.exists_cons_of_ne_nil (Text.split_ne_nil isSeparator cs)
    have hsplit : Text.split isSeparator (b :: cs) = (b :: w) :: ws := by
      simp [Text.split, hsep, hw]
    simp only [members, hsplit, hw, List.map_cons, trim_cons hb]

/-- A blank at the end belongs to the last member, or it is a separator with nothing after it. The
induction is on the rest after some separator. -/
lemma members_concat {b : Char} (hb : Text.isBlank b = true) (cs : List Char) :
    members (cs ++ [b]) = members cs := by
  induction hn : cs.length using Nat.strong_induction_on generalizing cs with
  | _ n ih =>
    by_cases hcs : ∃ c ∈ cs, isSeparator c = true
    · obtain ⟨c, hmem, hc⟩ := hcs
      obtain ⟨l, r, rfl⟩ := List.append_of_mem hmem
      have hr : members (r ++ [b]) = members r := ih r.length (by simp at hn; omega) r rfl
      rw [List.append_assoc, List.cons_append, members_append_separator hc,
        members_append_separator hc, hr]
    · have hwhole : ∀ c ∈ cs, isSeparator c = false := by simpa using hcs
      by_cases hsep : isSeparator b = true
      · rw [members_append_separator hsep, members_nil, List.append_nil]
      · have hlonger : ∀ c ∈ cs ++ [b], isSeparator c = false := by
          simpa [or_imp, forall_and] using ⟨hwhole, Bool.eq_false_iff.2 hsep⟩
        rw [members_of_whole hlonger, members_of_whole hwhole, trim_concat hb]

lemma members_blanks_append {a : List Char} (ha : ∀ c ∈ a, Text.isBlank c = true) (cs : List Char) :
    members (a ++ cs) = members cs := by
  induction a with
  | nil => rfl
  | cons b a ih =>
    obtain ⟨hb, ha⟩ := List.forall_mem_cons.1 ha
    rw [List.cons_append, members_cons hb, ih ha]

lemma members_append_blanks {z : List Char} (hz : ∀ c ∈ z, Text.isBlank c = true) (cs : List Char) :
    members (cs ++ z) = members cs := by
  induction z using List.reverseRecOn with
  | nil => rw [List.append_nil]
  | append_singleton z b ih =>
    obtain ⟨hz, hb⟩ := List.forall_mem_append.1 hz
    rw [← List.append_assoc, members_concat (hb b List.mem_cons_self), ih hz]

/-- Blanks at the ends of a line do not matter for its members. -/
lemma members_of_trims {cs t : List Char} (h : Trims cs t) : members cs = members t := by
  obtain ⟨⟨a, z, rfl, ha, hz⟩, -, -⟩ := h
  rw [members_append_blanks hz, members_blanks_append ha]

/-- The parts of a line that nothing claims are its members. -/
lemma lineParts_eq_members {cs : List Char} (h : claimsLine (Text.trim cs) = false) :
    lineParts cs = members cs := by
  rw [members_of_trims (trim_spec cs), lineParts, if_neg (Bool.eq_false_iff.1 h), members]

/-! ### Lines that can be shared -/

/-- The text leaves room for others on its line: after its leading blanks it begins neither with a
loop nor with a condition. -/
structure Sharing (cs : List Char) : Prop where
  noLoop : ¬"for ".toList <+: Text.trimStart cs
  noCondition : ¬"if ".toList <+: Text.trimStart cs

lemma claimsLine_eq_false_iff {cs : List Char} :
    claimsLine cs = false ↔ ¬"for ".toList <+: cs ∧ ¬"if ".toList <+: cs := by
  have hafter : ∀ k : String, (after? k cs).isSome = true ↔ k.toList <+: cs := fun k => by
    rw [Option.isSome_iff_exists]
    exact exists_congr fun rest => after?_eq_some_iff.trans eq_comm
  rw [claimsLine, Bool.or_eq_false_iff, Bool.eq_false_iff, Bool.eq_false_iff, Ne, Ne, hafter, hafter]

lemma Sharing.claimsLine_trim {cs : List Char} (h : Sharing cs) :
    claimsLine (Text.trim cs) = false := by
  obtain ⟨z, hz, -, -⟩ := trimEnd_spec (Text.trimStart cs)
  have hle : Text.trim cs <+: Text.trimStart cs := ⟨z, hz.symm⟩
  exact claimsLine_eq_false_iff.2 ⟨fun hk => h.noLoop (hk.trans hle),
    fun hk => h.noCondition (hk.trans hle)⟩

/-- A keyword does not reach over a separator. -/
lemma not_isPrefix_append_cons {k t b : List Char} {c : Char} (hc : c ∉ k) (h : ¬k <+: t) :
    ¬k <+: t ++ c :: b := by
  intro hk
  rcases List.prefix_or_prefix_of_prefix hk (List.prefix_append t _) with hkt | ⟨u, rfl⟩
  · exact h hkt
  · rw [List.prefix_append_right_inj] at hk
    cases u with
    | nil => exact h (by simp)
    | cons d u =>
      obtain rfl : d = c := (List.cons_prefix_cons.1 hk).1
      exact hc (by simp)

/-- What no line begins with, two lines that share a separator do not begin with either. -/
lemma not_isPrefix_trimStart_join {k a b : List Char} {c : Char} (hne : k ≠ []) (hc : c ∉ k)
    (ha : ¬k <+: Text.trimStart a) (hb : ¬k <+: Text.trimStart b) :
    ¬k <+: Text.trimStart (a ++ c :: b) := by
  rw [Text.trimStart, List.dropWhile_append]
  split
  · -- the first line is blank, and so may be the separator
    by_cases hblank : Text.isBlank c = true
    · rw [List.dropWhile_cons_of_pos hblank]
      exact hb
    · rw [List.dropWhile_cons_of_neg hblank]
      exact not_isPrefix_append_cons (t := []) hc (by simpa using hne)
  · exact not_isPrefix_append_cons hc ha

lemma Sharing.join {a b : List Char} {c : Char} (ha : Sharing a) (hb : Sharing b)
    (hc : isSeparator c = true) : Sharing (a ++ c :: b) := by
  have hcases : c = ';' ∨ c = '\n' := by simpa [isSeparator] using hc
  constructor
  · refine not_isPrefix_trimStart_join (by decide) ?_ ha.noLoop hb.noLoop
    rcases hcases with rfl | rfl <;> decide
  · refine not_isPrefix_trimStart_join (by decide) ?_ ha.noCondition hb.noCondition
    rcases hcases with rfl | rfl <;> decide

lemma readLine_append_separator {a b : List Char} {c : Char} (ha : Sharing a) (hb : Sharing b)
    (hc : isSeparator c = true) (limit : UInt32) :
    readLine limit (a ++ c :: b) = readLine limit a ++ readLine limit b := by
  simp only [readLine, lineParts_eq_members (ha.join hb hc).claimsLine_trim,
    lineParts_eq_members ha.claimsLine_trim, lineParts_eq_members hb.claimsLine_trim,
    members_append_separator hc, List.map_append]

end Script

/-! ### Submitting two lines as one -/

lemma Script.errors_append {α : Type} (ps qs : List (Reading α)) :
    errors (ps ++ qs) = errors ps ++ errors qs := List.filterMap_append

section Whole

variable {rules : Rules} {first second whole : String}
  (h : Script.readLine rules.maxRepeat whole.toList =
    Script.readLine rules.maxRepeat first.toList ++ Script.readLine rules.maxRepeat second.toList)

include h

lemma Effect.ofLine_append (read : Builtin → Int) :
    ofLine rules read whole = ofLine rules read first ++ ofLine rules read second := by
  simp only [ofLine, h, ofParts, List.flatMap_append]

variable {σ : Type} [Scene σ] (s s' : Scheduler) (w w' : σ)

lemma errors_submit_append : (rules.submit whole s w).report.errors =
    (rules.submit first s w).report.errors ++ (rules.submit second s' w').report.errors := by
  simp only [errors_submit, h, Script.errors_append]

lemma scheduler_submit_append : (rules.submit whole s w).scheduler =
    (rules.submit second (rules.submit first s w).scheduler w).scheduler := by
  rw [scheduler_submit, Effect.ofLine_append h, List.foldl_append, ← scheduler_submit,
    ← scheduler_submit]

lemma staged_submit_append : (rules.submit whole s w).report.staged =
    (rules.submit first s w).report.staged + (rules.submit second s' w).report.staged := by
  simp only [staged_submit, Effect.ofLine_append h, List.map_append, List.sum_append]

/-- After a first line without errors, the second alone decides whether the world is hurt. -/
lemma world_submit_append (hfirst : (rules.submit first s w).report.success = true) :
    (rules.submit whole s w).world = (rules.submit second s' w).world := by
  have hempty : (rules.submit first s w).report.errors = [] := by
    rwa [success_submit, List.isEmpty_iff] at hfirst
  simp only [world_submit, success_submit, errors_submit_append h s s' w w, hempty,
    List.nil_append]

end Whole

/-- **Joining two lines by a separator concatenates them**, unless one of them begins with a loop or
a condition and so claims its line: the readings of the joined line are those of the two, one after
the other. So it has the errors of both, and where the first has none, submitting it leaves a
scheduler and a world as submitting the two does, with as many steps staged. -/
theorem Script.readLine_join {a b : List Char} {c : Char} (ha : Sharing a) (hb : Sharing b)
    (hc : c = ';' ∨ c = '\n') :
    (∀ limit, readLine limit (a ++ c :: b) = readLine limit a ++ readLine limit b) ∧
      ∀ {σ : Type} [Scene σ] (rules : Rules) (s : Scheduler) (w : σ),
        let first := rules.submit (String.ofList a) s w
        let second := rules.submit (String.ofList b) first.scheduler first.world
        let whole := rules.submit (String.ofList (a ++ c :: b)) s w
        whole.report.errors = first.report.errors ++ second.report.errors ∧
          (first.report.success = true →
            whole.scheduler = second.scheduler ∧ whole.world = second.world ∧
              whole.report.staged = first.report.staged + second.report.staged) := by
  have hsep : isSeparator c = true := by simpa [isSeparator] using hc
  refine ⟨readLine_append_separator ha hb hsep, fun rules s w => ?_⟩
  intro first second whole
  have hwhole : readLine rules.maxRepeat (String.ofList (a ++ c :: b)).toList =
      readLine rules.maxRepeat (String.ofList a).toList ++
        readLine rules.maxRepeat (String.ofList b).toList := by
    simp only [String.toList_ofList]
    exact readLine_append_separator ha hb hsep rules.maxRepeat
  refine ⟨errors_submit_append hwhole s _ w _, fun hfirst => ?_⟩
  -- the conditions of the second line find the world as it was
  have hworld : first.world = w := (world_submit rules _ s w).trans (if_pos hfirst)
  simp only [second, hworld]
  exact ⟨scheduler_submit_append hwhole s w, world_submit_append hwhole s _ w hfirst,
    staged_submit_append hwhole s _ w⟩

/-- A line of a walk that ends in an empty member. -/
def walkLine : List Char := "\u00a0walk 2 right ;".toList

/-- A line that begins with a blank line and becomes a clear only by trimming. -/
def stopLine : List Char := "\n\tstop; turn left ".toList

theorem Script.readLine_join_stop :
    Sharing walkLine ∧ Sharing stopLine ∧
      readLine 9 (walkLine ++ '\n' :: stopLine) =
        [.ok (.command (.walk .right 2)), .ok (.command .clear), .ok (.command (.turn .left))] ∧
      let first := rowConfig.rules.submit (String.ofList walkLine) (.new rowConfig) rowWorld
      let whole := rowConfig.rules.submit (String.ofList (walkLine ++ '\n' :: stopLine))
        (.new rowConfig) rowWorld
      first.report.success = true ∧ whole.scheduler.queue = [.turn .left] ∧
        whole.report.staged = 3 := by
  have hwalk : Sharing walkLine := ⟨by decide, by decide⟩
  have hstop : Sharing stopLine := ⟨by decide, by decide⟩
  obtain ⟨hread, hsubmit⟩ := readLine_join hwalk hstop (.inr rfl)
  obtain ⟨-, hparsed⟩ := hsubmit rowConfig.rules (.new rowConfig) rowWorld
  have hfirst : (rowConfig.rules.submit (String.ofList walkLine) (.new rowConfig)
      rowWorld).report.success = true := by decide +kernel
  obtain ⟨hscheduler, -, hstaged⟩ := hparsed hfirst
  refine ⟨hwalk, hstop, ?_, hfirst, ?_, ?_⟩
  · rw [hread]
    decide +kernel
  · rw [hscheduler]
    decide +kernel
  · rw [hstaged]
    decide +kernel

end GridScript
