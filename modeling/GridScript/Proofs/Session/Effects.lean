import GridScript.Session.Submission
import GridScript.World.Basic
import Mathlib.Algebra.GroupWithZero.Nat
import Mathlib.Logic.Function.Basic

/-!
What a line means: the list of its effects.

The meaning of a statement is read off the statement, a scope that gives values to loop variables,
and the readings of the world. It has no state: a loop repeats the effects of its body with the
variable set to each round. `submit_eq_effects` says that submitting a line comes to applying its
effects.
-/

namespace GridScript

/-- What a command does to the scheduler. -/
inductive Effect where
  | stage (a : Action)
  | clear
deriving DecidableEq

/-- The values of the loop variables that are in scope. -/
abbrev Scope := String → Option Int

namespace Effect

def apply (s : Scheduler) : Effect → Scheduler
  | stage a => s.stage a
  | clear => s.clear

/-- A relation that staging and clearing keep is kept by effects. -/
lemma rel_foldl {R : Scheduler → Scheduler → Prop}
    (hstage : ∀ {s t} a, R s t → R (s.stage a) (t.stage a))
    (hclear : ∀ {s t}, R s t → R s.clear t.clear) {s t : Scheduler} (h : R s t)
    (fx : List Effect) : R (fx.foldl apply s) (fx.foldl apply t) := by
  induction fx generalizing s t with
  | nil => exact h
  | cons e fx ih =>
    cases e with
    | stage a => exact ih (hstage a h)
    | clear => exact ih (hclear h)

lemma foldl_inv {P : Scheduler → Prop} (hstage : ∀ {s} a, P s → P (s.stage a))
    (hclear : ∀ {s}, P s → P s.clear) {s : Scheduler} (h : P s) (fx : List Effect) :
    P (fx.foldl apply s) :=
  rel_foldl (R := fun s _ => P s) (t := s) hstage hclear h fx

/-- The number of single steps that an effect stages. -/
def stepCount : Effect → Nat
  | stage a => a.stepCount
  | clear => 0

/-- The effect of a command; a wait without a time takes the default. -/
def ofCommand (defaultWait : Millis) : Command → Effect
  | .move d => stage (.step d)
  | .walk d count => stage (.walk d count)
  | .turn d => stage (.turn d)
  | .wait (some ms) => stage (.wait ms)
  | .wait none => stage (.wait defaultWait)
  | .print text => stage (.print text)
  | .clear => clear

/-- The value of a name: a loop variable, else a reading of the world, else zero. -/
def value (read : Builtin → Int) (scope : Scope) (name : String) : Int :=
  match scope name with
  | some v => v
  | none =>
    if name = "x" then read .x
    else if name = "y" then read .y
    else if name = "health" then read .health
    else 0

/-- The effects of a statement, in order. -/
def ofStatement (defaultWait : Millis) (read : Builtin → Int) : Scope → Statement → List Effect
  | _, .command c => [ofCommand defaultWait c]
  | scope, .loop name count body =>
    (List.range count.toNat).flatMap fun (i : Nat) =>
      ofStatement defaultWait read (Function.update scope name (some (i : Int))) body
  | scope, .guarded c body =>
    if c.op.holds (value read scope c.name) c.value then ofStatement defaultWait read scope body
    else []

/-- The effects of the statements among some readings, each on its own. -/
def ofParts (defaultWait : Millis) (read : Builtin → Int)
    (parts : List (Script.Reading Statement)) : List Effect :=
  parts.flatMap fun
    | .ok st => ofStatement defaultWait read (fun _ => none) st
    | .error _ => []

/-- The effects of a line in a world with some readings. -/
def ofLine (rules : Rules) (read : Builtin → Int) (line : String) : List Effect :=
  ofParts rules.defaultWait read (Script.readLine rules.maxRepeat line.toList)

end Effect

/-! ### Executing a statement -/

lemma Bindings.resolve_eq {b : Bindings} {scope : Scope} (h : ∀ n, b.get? n = scope n)
    (read : Builtin → Int) (name : String) :
    b.resolve read name = Effect.value read scope name := by
  unfold resolve Effect.value
  rw [h]
  cases scope name with
  | some v => rfl
  | none =>
    by_cases hx : name = "x"
    · subst hx
      rfl
    · by_cases hy : name = "y"
      · subst hy
        rfl
      · by_cases hh : name = "health"
        · subst hh
          rfl
        · have hnone : Builtin.ofName? name = none := by
            simp [Builtin.ofName?, Builtin.name, Ne.symm hx, Ne.symm hy, Ne.symm hh]
          simp [hnone, hx, hy, hh]

namespace Execution

/-- An execution has had some effects and its variables read as before. -/
structure Had (e : Execution) (fx : List Effect) (e' : Execution) : Prop where
  bindings : ∀ n, e'.bindings.get? n = e.bindings.get? n
  settled : e'.settled = fx.foldl Effect.apply e.settled
  staged : e'.staged = e.staged + (fx.map Effect.stepCount).sum

lemma Had.refl (e : Execution) : e.Had [] e := ⟨fun _ => rfl, rfl, rfl⟩

lemma Had.trans {e e' e'' : Execution} {fx gx : List Effect} (h : e.Had fx e')
    (h' : e'.Had gx e'') : e.Had (fx ++ gx) e'' where
  bindings n := (h'.bindings n).trans (h.bindings n)
  settled := by rw [h'.settled, h.settled, List.foldl_append]
  staged := by rw [h'.staged, h.staged, List.map_append, List.sum_append, Nat.add_assoc]

lemma had_stage (e : Execution) (a : Action) : e.Had [.stage a] (e.stage a) where
  bindings n := by
    unfold stage
    split <;> rfl
  settled := settled_stage e a
  staged := by
    unfold stage
    split
    · rename_i h
      simp [Effect.stepCount, h]
    · simp [Effect.stepCount]

lemma had_clear (e : Execution) : e.Had [.clear] e.clear := ⟨fun _ => rfl, settled_clear e, rfl⟩

lemma had_command (defaultWait : Millis) (e : Execution) (c : Command) :
    e.Had [Effect.ofCommand defaultWait c] (e.command defaultWait c) := by
  cases c with
  | clear => exact had_clear e
  | wait ms => cases ms <;> exact had_stage e _
  | move | walk | turn | print => exact had_stage e _

/-- A round of a loop: its variable is bound for the body and given back afterwards. -/
lemma Had.round {e e' : Execution} {name : String} {v : Int} {fx : List Effect}
    (h : Had { e with bindings := e.bindings.bind name v } fx e') :
    e.Had fx { e' with bindings := e'.bindings.restore name (e.bindings.get? name) } where
  bindings n := by
    rw [Bindings.get?_restore, h.bindings, Bindings.get?_bind]
    split
    · rename_i hn
      rw [hn]
    · rfl
  settled := h.settled
  staged := h.staged

/-- Rounds one after the other. -/
lemma had_fold {n : Nat} {f : (i : Nat) → i < n → Execution → Execution} {fx : Nat → List Effect}
    {e : Execution}
    (h : ∀ i hi e', (∀ m, e'.bindings.get? m = e.bindings.get? m) → Had e' (fx i) (f i hi e')) :
    e.Had ((List.range n).flatMap fx) (n.fold f e) := by
  induction n with
  | zero => exact Had.refl e
  | succ n ih =>
    have hrounds := ih (f := fun i hi => f i (Nat.lt_succ_of_lt hi)) fun i hi => h i _
    rw [Nat.fold_succ, List.range_succ, List.flatMap_append]
    simpa using hrounds.trans (h n _ _ hrounds.bindings)

/-- Executing a statement has the effects that are its meaning. -/
lemma had_statement (defaultWait : Millis) (read : Builtin → Int) (st : Statement) {scope : Scope}
    {e : Execution} (h : ∀ n, e.bindings.get? n = scope n) :
    e.Had (Effect.ofStatement defaultWait read scope st) (e.statement defaultWait read st) := by
  induction st generalizing scope e with
  | command c => exact had_command defaultWait e c
  | loop name count body ih =>
    rw [statement, Effect.ofStatement]
    refine had_fold fun i _ e' he' => Had.round (v := (i : Int)) (ih fun n => ?_)
    rw [Bindings.get?_bind, he', h, Function.update_apply]
  | guarded c body ih =>
    unfold statement Effect.ofStatement Bindings.holds
    rw [Bindings.resolve_eq h]
    split
    · exact ih h
    · exact Had.refl e

lemma had_statements (defaultWait : Millis) (read : Builtin → Int)
    (parts : List (Script.Reading Statement)) {e : Execution} (h : ∀ n, e.bindings.get? n = none) :
    e.Had (Effect.ofParts defaultWait read parts)
      ((Script.statements parts).foldl (fun e st => e.statement defaultWait read st) e) := by
  induction parts generalizing e with
  | nil => exact Had.refl e
  | cons part parts ih =>
    cases part with
    | error err => exact ih h
    | ok st =>
      have hst := had_statement defaultWait read st h
      exact hst.trans (ih fun n => (hst.bindings n).trans (h n))

end Execution

/-! ### Submitting a line -/

section Submit

variable {σ : Type} [Scene σ] (rules : Rules) (line : String) (s : Scheduler) (w : σ)

lemma had_submit : (Execution.start s).Had (Effect.ofLine rules (Scene.reading w) line)
    ((Script.statements (Script.readLine rules.maxRepeat line.toList)).foldl
      (fun e st => e.statement rules.defaultWait (Scene.reading w) st) (Execution.start s)) :=
  Execution.had_statements _ _ _ Bindings.get?_empty

/-- The scheduler after a submission: the effects of the line, one after the other. -/
lemma scheduler_submit : (rules.submit line s w).scheduler =
    (Effect.ofLine rules (Scene.reading w) line).foldl Effect.apply s := by
  have h := (had_submit rules line s w).settled
  rwa [Execution.settled_start] at h

lemma staged_submit : (rules.submit line s w).report.staged =
    ((Effect.ofLine rules (Scene.reading w) line).map Effect.stepCount).sum := by
  have h := (had_submit rules line s w).staged
  rwa [show (Execution.start s).staged = 0 from rfl, Nat.zero_add] at h

lemma world_submit : (rules.submit line s w).world =
    if (rules.submit line s w).report.success then w else Scene.hurt w rules.damagePerError := by
  unfold Rules.submit
  with_reducible rfl

lemma errors_submit : (rules.submit line s w).report.errors =
    Script.errors (Script.readLine rules.maxRepeat line.toList) := by
  simp only [Rules.submit]

lemma success_submit : (rules.submit line s w).report.success =
    (rules.submit line s w).report.errors.isEmpty := by
  simp only [Rules.submit]

/-- The report of a line does not depend on the scheduler. -/
lemma report_submit (t : Scheduler) :
    (rules.submit line s w).report = (rules.submit line t w).report := by
  have hstaged := (staged_submit rules line s w).trans (staged_submit rules line t w).symm
  unfold Rules.submit at hstaged ⊢
  exact congrArg (fun n => Report.mk _ _ n _) hstaged

end Submit

/-- **What submitting a line does**: the scheduler undergoes the effects of the line, the report
counts their steps and lists the errors, and a world is hurt once if there is an error and else left
alone. -/
theorem submit_eq_effects (rules : Rules) (line : String) (s : Scheduler) :
    (∀ {σ : Type} [Scene σ] (w : σ),
      let parts := Script.readLine rules.maxRepeat line.toList
      let fx := Effect.ofParts rules.defaultWait (Scene.reading w) parts
      let r := rules.submit line s w
      r.scheduler = fx.foldl Effect.apply s ∧
        r.report.staged = (fx.map Effect.stepCount).sum ∧
        r.report.errors = parts.filterMap (fun | .ok _ => none | .error e => some e) ∧
        r.report.success = r.report.errors.isEmpty ∧
        r.report.damaged = !r.report.success ∧
        r.world = if r.report.success then w else Scene.hurt w rules.damagePerError) ∧
    ∀ w : World, (rules.submit line s w).world =
      if (rules.submit line s w).report.success then w
      else { w with health := w.health.damage rules.damagePerError } := by
  refine ⟨fun w => ⟨?_, ?_, ?_, ?_, ?_, world_submit rules line s w⟩, world_submit rules line s⟩
  · exact scheduler_submit rules line s w
  · exact staged_submit rules line s w
  · simp only [Rules.submit, Script.errors]
    congr 1
    funext part
    cases part <;> rfl
  · simp only [Rules.submit]
  · simp only [Rules.submit]

end GridScript
