import GridScript.Proofs.Motion.Run
import GridScript.Session.Submission

/-!
Runs of a scheduler in a world to which lines are submitted as well.

`Play.handle` takes an input, which is an event or a line. `Play.observed` keeps what each input
reports and what can be seen after it.
-/

namespace GridScript

/-- What may happen to a scheduler and its world if lines are submitted too. -/
inductive Input (σ : Type) where
  | event (e : Event σ)
  | submit (rules : Rules) (line : String)

/-- What an input reports. -/
inductive Reply where
  | outcome (o : Outcome)
  | report (r : Report)
deriving DecidableEq

/-- What can be seen of a scheduler, and its world. -/
structure View (σ : Type) where
  pending : List Action
  queueLength : Nat
  isBusy : Bool
  motion : Option Motion
  gate : Gate
  world : σ
deriving DecidableEq

namespace Play

variable {σ : Type}

def view (p : Play σ) : View σ where
  pending := p.scheduler.pending
  queueLength := p.scheduler.queueLength
  isBusy := p.scheduler.isBusy
  motion := p.scheduler.motion
  gate := p.scheduler.gate
  world := p.world

variable [Scene σ]

def handle (p : Play σ) : Input σ → Play σ
  | .event e => p.step e
  | .submit rules line =>
    let r := rules.submit line p.scheduler p.world
    ⟨r.scheduler, r.world⟩

/-- What an input reports: a tick its outcome, a line its report. -/
def reply? (p : Play σ) : Input σ → Option Reply
  | .event e => (p.outcome? e).map .outcome
  | .submit rules line => some (.report (rules.submit line p.scheduler p.world).report)

/-- What each input of a run reports, and what can be seen after it. -/
def observed : Play σ → List (Input σ) → List (Option Reply × View σ)
  | _, [] => []
  | p, i :: is => (p.reply? i, (p.handle i).view) :: observed (p.handle i) is

@[simp] lemma handle_submit (p : Play σ) (rules : Rules) (line : String) :
    p.handle (.submit rules line) =
      ⟨(rules.submit line p.scheduler p.world).scheduler,
        (rules.submit line p.scheduler p.world).world⟩ := rfl

@[simp] lemma observed_nil (p : Play σ) : p.observed [] = [] := rfl

@[simp] lemma observed_cons (p : Play σ) (i : Input σ) (is : List (Input σ)) :
    p.observed (i :: is) = (p.reply? i, (p.handle i).view) :: (p.handle i).observed is := rfl

end Play

end GridScript
