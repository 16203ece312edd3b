import GridScript.Proofs.Motion.Tick
import Mathlib.Data.List.DropRight

/-!
Runs of a scheduler in a world.

What happens to the two is a list of events; `Play.run` folds it, and the transcript keeps each
event with the outcome of its tick. The clock is read by the ticks, so a change of the clock is no
event of its own: any reading may follow any other.
-/

namespace GridScript

/-- What may happen to a scheduler and its world. -/
inductive Event (σ : Type) where
  | stage (a : Action)
  | tick (now : Millis)
  | clear
  | setActionDelay (ms : Millis)
  | setMoveSpeed (speed : UInt32)
  /-- The world is changed from outside. -/
  | edit (f : σ → σ)

/-- A scheduler at work in a world. -/
structure Play (σ : Type) where
  scheduler : Scheduler
  world : σ

namespace Play

variable {σ : Type}

/-- A new scheduler in a world. -/
def start (c : Config) (w : σ) : Play σ := ⟨Scheduler.new c, w⟩

variable [Scene σ]

/-- The tick of a play. -/
def ticked (p : Play σ) (now : Millis) : Ticked σ := p.scheduler.tick now p.world

def step (p : Play σ) : Event σ → Play σ
  | .stage a => { p with scheduler := p.scheduler.stage a }
  | .tick now => ⟨(p.ticked now).scheduler, (p.ticked now).world⟩
  | .clear => { p with scheduler := p.scheduler.clear }
  | .setActionDelay ms => { p with scheduler := p.scheduler.setActionDelay ms }
  | .setMoveSpeed speed => { p with scheduler := p.scheduler.setMoveSpeed speed }
  | .edit f => { p with world := f p.world }

/-- What an event reports: ticks have an outcome. -/
def outcome? (p : Play σ) : Event σ → Option Outcome
  | .tick now => some (p.ticked now).outcome
  | _ => none

def run (p : Play σ) (es : List (Event σ)) : Play σ := es.foldl step p

/-- The events of a run, each with what it reports. -/
def transcript : Play σ → List (Event σ) → List (Event σ × Option Outcome)
  | _, [] => []
  | p, e :: es => (e, p.outcome? e) :: transcript (p.step e) es

@[simp] lemma run_nil (p : Play σ) : p.run [] = p := rfl

@[simp] lemma run_cons (p : Play σ) (e : Event σ) (es : List (Event σ)) :
    p.run (e :: es) = (p.step e).run es := rfl

lemma run_append (p : Play σ) (es fs : List (Event σ)) : p.run (es ++ fs) = (p.run es).run fs := by
  simp [run, List.foldl_append]

/-- What every event keeps, a run keeps. -/
lemma run_inv {P : Play σ → Prop} (hstep : ∀ p e, P p → P (p.step e)) {p : Play σ} (h : P p)
    (es : List (Event σ)) : P (p.run es) := by
  induction es generalizing p with
  | nil => exact h
  | cons e es ih => exact ih (hstep p e h)

@[simp] lemma transcript_nil (p : Play σ) : p.transcript [] = [] := rfl

@[simp] lemma transcript_cons (p : Play σ) (e : Event σ) (es : List (Event σ)) :
    p.transcript (e :: es) = (e, p.outcome? e) :: (p.step e).transcript es := rfl

lemma transcript_append (p : Play σ) (es fs : List (Event σ)) :
    p.transcript (es ++ fs) = p.transcript es ++ (p.run es).transcript fs := by
  induction es generalizing p with
  | nil => rfl
  | cons e es ih => simp [ih]

end Play

end GridScript
