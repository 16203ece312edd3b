import GridScript.Proofs.Session.Effects
import GridScript.Proofs.Session.Inputs

/-!
Submitting a line comes to a run of events: those that its effects are, and one that hurts the world
if there was an error. So a run with lines among its inputs has a history of events and outcomes.
-/

namespace GridScript

/-- The event that an effect of a line is. -/
def Effect.event {σ : Type} : Effect → Event σ
  | stage a => .stage a
  | clear => .clear

namespace Play

variable {σ : Type} [Scene σ]

/-- The events that an input comes to. -/
def events (p : Play σ) : Input σ → List (Event σ)
  | .event e => [e]
  | .submit rules line =>
    (Effect.ofLine rules (Scene.reading p.world) line).map Effect.event ++
      if (rules.submit line p.scheduler p.world).report.success then []
      else [.edit (Scene.hurt · rules.damagePerError)]

/-- The events of a run, each with what it reports. -/
def history : Play σ → List (Input σ) → List (Event σ × Option Outcome)
  | _, [] => []
  | p, i :: is => p.transcript (p.events i) ++ history (p.handle i) is

lemma run_effects (p : Play σ) (fx : List Effect) :
    p.run (fx.map Effect.event) = { p with scheduler := fx.foldl Effect.apply p.scheduler } := by
  induction fx generalizing p with
  | nil => rfl
  | cons e fx ih => cases e <;> exact ih _

lemma run_events (p : Play σ) (i : Input σ) : p.run (p.events i) = p.handle i := by
  cases i with
  | event e => rfl
  | submit rules line =>
    rw [events, run_append, run_effects, handle_submit, scheduler_submit, world_submit]
    split <;> rfl

/-- A run with lines is a run of events, and its history is the transcript of that. -/
lemma exists_run (p : Play σ) (is : List (Input σ)) :
    ∃ es, is.foldl handle p = p.run es ∧ p.history is = p.transcript es := by
  induction is generalizing p with
  | nil => exact ⟨[], rfl, rfl⟩
  | cons i is ih =>
    obtain ⟨es, hrun, hhistory⟩ := ih (p.handle i)
    refine ⟨p.events i ++ es, ?_, ?_⟩
    · rw [List.foldl_cons, hrun, run_append, run_events]
    · rw [history, hhistory, transcript_append, run_events]

end Play

end GridScript
