import GridScript.Proofs.Motion.Tick
import GridScript.Proofs.Script.Limits
import GridScript.Proofs.Session.Effects
import GridScript.Proofs.World.Obstacles
import Mathlib.Algebra.Order.BigOperators.Group.List

/-!
How much work one line can stage.

No loop holds a loop, and the body of a loop has one effect at most in each round. So a statement has
no more effects than the limit on repeats allows rounds, and an effect no more steps than it allows
for a walk. An action that a clear of the same line takes out of the queue counts as well.
-/

namespace GridScript

open Script

namespace Effect

/-- The actions that some effects put into the queue, in order, those that are cleared later among
them. A walk of no steps is not put there. -/
def entries (fx : List Effect) : List Action :=
  fx.filterMap fun
    | stage a => if a.stepCount = 0 then none else some a
    | clear => none

/-! ### What effects do to the queue -/

lemma queue_stage (s : Scheduler) (a : Action) (fx : List Effect) :
    (s.stage a).queue ++ entries fx = s.queue ++ entries (stage a :: fx) := by
  unfold Scheduler.stage
  split
  · rename_i h
    simp [entries, h]
  · rename_i h
    simp [entries, h]

/-- What is in the queue was there before or is put there, the latter behind the former. -/
lemma queue_foldl_suffix (s : Scheduler) (fx : List Effect) :
    (fx.foldl apply s).queue <:+ s.queue ++ entries fx := by
  induction fx generalizing s with
  | nil => exact ⟨[], s.queue.append_nil.symm⟩
  | cons e fx ih =>
    cases e with
    | stage a => exact queue_stage s a fx ▸ ih (s.stage a)
    | clear => exact (ih s.clear).trans (List.suffix_append s.queue (entries fx))

lemma queue_foldl (s : Scheduler) {fx : List Effect} (h : clear ∉ fx) :
    (fx.foldl apply s).queue = s.queue ++ entries fx := by
  induction fx generalizing s with
  | nil => exact s.queue.append_nil.symm
  | cons e fx ih =>
    cases e with
    | stage a =>
      have hfx : clear ∉ fx := fun hmem => h (List.mem_cons_of_mem _ hmem)
      exact (ih (s.stage a) hfx).trans (queue_stage s a fx)
    | clear => exact absurd List.mem_cons_self h

lemma length_unroll_entries (fx : List Effect) :
    (Action.unroll (entries fx)).length = (fx.map stepCount).sum := by
  induction fx with
  | nil => rfl
  | cons e fx ih =>
    cases e with
    | stage a =>
      by_cases h : a.stepCount = 0
      · simpa [entries, stepCount, h] using ih
      · simpa [entries, stepCount, h, Action.unroll] using ih
    | clear => simpa [entries, stepCount] using ih

lemma length_entries_le (fx : List Effect) : (entries fx).length ≤ fx.length :=
  List.length_filterMap_le _ _

/-! ### How many effects a line has, and of how many steps -/

/-- A list for each element, none longer than a bound. -/
lemma length_flatMap_le {α β : Type} {l : List α} {f : α → List β} {n : ℕ}
    (h : ∀ a ∈ l, (f a).length ≤ n) : (l.flatMap f).length ≤ l.length * n := by
  rw [List.length_flatMap]
  refine (List.sum_le_card_nsmul _ n ?_).trans_eq (by simp)
  exact List.forall_mem_map.2 h

section Limit

variable {limit : UInt32} (hlimit : 1 ≤ limit) (defaultWait : Millis) (read : Builtin → Int)

include hlimit

/-- No effect has more steps than the limit, if no count of its statement is above it. -/
lemma stepCount_le {scope : Scope} {st : Statement} (h : ∀ n ∈ st.counts, n ≤ limit) :
    ∀ e ∈ ofStatement defaultWait read scope st, e.stepCount ≤ limit.toNat := by
  have hone : 1 ≤ limit.toNat := UInt32.le_iff_toNat_le.1 hlimit
  induction st generalizing scope with
  | command c =>
    intro e he
    obtain rfl := List.mem_singleton.1 he
    cases c with
    | walk d count => exact UInt32.le_iff_toNat_le.1 (h count List.mem_cons_self)
    | wait ms => cases ms <;> exact hone
    | move | turn | print => exact hone
    | clear => exact Nat.zero_le _
  | loop name count body ih =>
    intro e he
    obtain ⟨i, -, he⟩ := List.mem_flatMap.1 he
    exact ih (List.forall_mem_cons.1 h).2 e he
  | guarded c body ih =>
    intro e he
    rw [ofStatement] at he
    split at he
    · exact ih h e he
    · cases he

omit hlimit in
/-- In a body there is no loop. -/
lemma length_ofStatement_le_one {scope : Scope} {st : Statement} (h : st.Body limit) :
    (ofStatement defaultWait read scope st).length ≤ 1 := by
  cases h with
  | command => exact le_rfl
  | guarded h =>
    cases h
    rw [ofStatement]
    split
    · exact le_rfl
    · exact Nat.zero_le _

lemma length_ofStatement_le {scope : Scope} {st : Statement} (h : st.Nested limit) :
    (ofStatement defaultWait read scope st).length ≤ limit.toNat := by
  cases h with
  | loop _ hcount hbody =>
    rw [ofStatement]
    refine (length_flatMap_le fun _ _ => length_ofStatement_le_one defaultWait read hbody).trans ?_
    rw [List.length_range, Nat.mul_one]
    exact UInt32.le_iff_toNat_le.1 hcount
  | body hbody =>
    exact (length_ofStatement_le_one defaultWait read hbody).trans (UInt32.le_iff_toNat_le.1 hlimit)

/-- The bounds of a statement, for each part of a line. -/
lemma ofParts_le (cs : List Char) :
    let fx := ofParts defaultWait read (readLine limit cs)
    fx.length ≤ (readLine limit cs).length * limit.toNat ∧
      ∀ e ∈ fx, e.stepCount ≤ limit.toNat := by
  refine ⟨length_flatMap_le fun part hpart => ?_, fun e he => ?_⟩
  · cases part with
    | ok st => exact length_ofStatement_le hlimit defaultWait read (nested_of_mem_readLine hpart)
    | error => exact Nat.zero_le _
  · obtain ⟨part, hpart, he⟩ := List.mem_flatMap.1 he
    cases part with
    | ok st =>
      exact stepCount_le hlimit defaultWait read (counts_le (nested_of_mem_readLine hpart)) e he
    | error => cases he

end Limit

end Effect

/-- **One line's work is bounded**: a line with `parts` parts puts at most `limit` entries a part
into the queue, each of at most `limit` steps, whatever the world and the scheduler, and also if some
are cleared again. Unless it has a clear among its effects, they all come behind what waits, and the
number of steps that wait grows by those that are reported. -/
theorem workload_of_line (rules : Rules) (hlimit : 1 ≤ rules.maxRepeat) (line : String)
    {σ : Type} [Scene σ] (s : Scheduler) (w : σ) :
    let limit := rules.maxRepeat.toNat
    let parts := (readLine rules.maxRepeat line.toList).length
    let fx := Effect.ofLine rules (Scene.reading w) line
    let r := rules.submit line s w
    r.scheduler = fx.foldl Effect.apply s ∧
      r.scheduler.queue <:+ s.queue ++ Effect.entries fx ∧
      (Effect.entries fx).length ≤ parts * limit ∧
      r.report.staged = (Action.unroll (Effect.entries fx)).length ∧
      r.report.staged ≤ parts * limit * limit ∧
      (Effect.clear ∉ fx → r.scheduler.queue = s.queue ++ Effect.entries fx ∧
        r.scheduler.queueLength = s.queueLength + r.report.staged ∧
        s.pending <+: r.scheduler.pending) := by
  intro limit parts fx r
  obtain ⟨hlength, hsteps⟩ : fx.length ≤ parts * limit ∧ ∀ e ∈ fx, e.stepCount ≤ limit :=
    Effect.ofParts_le hlimit rules.defaultWait (Scene.reading w) line.toList
  have hscheduler : r.scheduler = fx.foldl Effect.apply s := scheduler_submit rules line s w
  have hstaged : r.report.staged = (fx.map Effect.stepCount).sum := staged_submit rules line s w
  have hentries : r.report.staged = (Action.unroll (Effect.entries fx)).length :=
    hstaged.trans (Effect.length_unroll_entries fx).symm
  have hsuffix : r.scheduler.queue <:+ s.queue ++ Effect.entries fx := by
    rw [hscheduler]
    exact Effect.queue_foldl_suffix s fx
  refine ⟨hscheduler, hsuffix, (Effect.length_entries_le fx).trans hlength, hentries, ?_,
    fun hclear => ?_⟩
  · have hsum := List.sum_le_card_nsmul (fx.map Effect.stepCount) limit (List.forall_mem_map.2 hsteps)
    rw [List.length_map, Nat.nsmul_eq_mul] at hsum
    exact hstaged ▸ hsum.trans (Nat.mul_le_mul_right limit hlength)
  · have hqueue : r.scheduler.queue = s.queue ++ Effect.entries fx :=
      (congrArg Scheduler.queue hscheduler).trans (Effect.queue_foldl s hclear)
    have hpending : r.scheduler.pending = s.pending ++ Action.unroll (Effect.entries fx) := by
      rw [Scheduler.pending, hqueue, Action.unroll_append, Scheduler.pending]
    have hbehind : s.pending <+: r.scheduler.pending := by
      rw [hpending]
      exact List.prefix_append _ _
    refine ⟨hqueue, ?_, hbehind⟩
    rw [Scheduler.queueLength_eq, Scheduler.queueLength_eq, hpending, List.length_append, hentries]

/-- A loop that takes the limit in full, behind a step that waits, and a line with a clear between
two walks. -/
theorem workload_of_line_full :
    let rules : Rules := ⟨1000, 1, 3⟩
    let s := (Scheduler.new rowConfig).stage (.turn .left)
    let full := rules.submit "for i in range(3): walk 3 up" s rowWorld
    let cleared := rules.submit "walk 3 up; stop; walk 2 up" s rowWorld
    1 ≤ rules.maxRepeat ∧
      full.report.staged = 1 * 3 * 3 ∧ full.scheduler.queueLength = s.queueLength + 1 * 3 * 3 ∧
      s.pending <+: full.scheduler.pending ∧
      cleared.report.staged = 5 ∧ cleared.scheduler.queue = [.walk .up 2] ∧
      cleared.scheduler.queue <:+ s.queue ++ [.walk .up 3, .walk .up 2] := by
  intro rules s full cleared
  have hlimit : 1 ≤ rules.maxRepeat := by decide
  have hstaged : full.report.staged = 1 * 3 * 3 := by decide +kernel
  have hentries : Effect.entries
      (Effect.ofLine rules (Scene.reading rowWorld) "walk 3 up; stop; walk 2 up") =
        [.walk .up 3, .walk .up 2] := by decide +kernel
  obtain ⟨-, -, -, -, -, hbehind⟩ :=
    workload_of_line rules hlimit "for i in range(3): walk 3 up" s rowWorld
  obtain ⟨-, hlength, hpending⟩ := hbehind (by decide +kernel)
  obtain ⟨-, hsuffix, -⟩ := workload_of_line rules hlimit "walk 3 up; stop; walk 2 up" s rowWorld
  rw [hstaged] at hlength
  rw [hentries] at hsuffix
  exact ⟨hlimit, hstaged, hlength, hpending, by decide +kernel, by decide +kernel, hsuffix⟩

end GridScript
