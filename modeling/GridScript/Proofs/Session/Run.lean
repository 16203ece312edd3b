import GridScript.Session.Basic
import Mathlib.Tactic.Common

/-!
Runs of a session.

What happens to a session is a list of events; `Session.run` folds it, and `Session.outcomes` keeps
what the ticks report. As in the runs of a scheduler, each tick brings its own reading of the clock.
-/

namespace GridScript.Session

/-- What may happen to a session. -/
inductive Event where
  | submit (line : String)
  | tick (now : Millis)
  | clear
  | setActionDelay (ms : Millis)
  | setMoveSpeed (speed : UInt32)
  | setSpeedLevel (level : UInt8)
  /-- The world is changed from outside. -/
  | edit (f : World → World)

def step (s : Session) : Event → Session
  | .submit line => (s.submit line).2
  | .tick now => (s.tick now).2
  | .clear => s.clear
  | .setActionDelay ms => s.setActionDelay ms
  | .setMoveSpeed speed => s.setMoveSpeed speed
  | .setSpeedLevel level => s.setSpeedLevel level
  | .edit f => s.mapWorld f

/-- The outcome of an event that is a tick. -/
def outcome? (s : Session) : Event → Option Outcome
  | .tick now => some (s.tick now).1
  | _ => none

def run (s : Session) (es : List Event) : Session := es.foldl step s

/-- The outcomes of the ticks of a run, in order. -/
def outcomes : Session → List Event → List Outcome
  | _, [] => []
  | s, e :: es => (s.outcome? e).toList ++ outcomes (s.step e) es

@[simp] lemma run_nil (s : Session) : s.run [] = s := rfl

@[simp] lemma run_cons (s : Session) (e : Event) (es : List Event) :
    s.run (e :: es) = (s.step e).run es := rfl

@[simp] lemma outcomes_nil (s : Session) : s.outcomes [] = [] := rfl

@[simp] lemma outcomes_cons (s : Session) (e : Event) (es : List Event) :
    s.outcomes (e :: es) = (s.outcome? e).toList ++ (s.step e).outcomes es := rfl

/-- Nothing changes the rules of a session. -/
lemma rules_run (s : Session) (es : List Event) : (s.run es).rules = s.rules := by
  induction es generalizing s with
  | nil => rfl
  | cons e es ih =>
    rw [run_cons, ih]
    cases e <;> rfl

/-! ### Opening a session -/

lemma new_eq_ok_iff {c : Config} {w : World} {s : Session} :
    new c w = .ok s ↔ c.validate = .ok () ∧ s = ⟨c, c.rules, Scheduler.new c, w⟩ := by
  unfold new
  cases c.validate with
  | error e => simp [bind, Except.bind]
  | ok u => simp [bind, Except.bind, pure, Except.pure, eq_comm]

/-- On a map given as text a session opens in the world of that map. -/
lemma ofMapText_eq_ok_iff {c : Config} {text : List Char} {col row : Nat} {s : Session} :
    ofMapText c text col row = .ok s ↔ ∃ map, TileMap.parse text c.tileSize = .ok map ∧
      new c (World.new map (map.cellOrigin col row) c) = .ok s := by
  unfold ofMapText
  cases TileMap.parse text c.tileSize with
  | error e => simp [Except.mapError, bind, Except.bind]
  | ok map =>
    cases hs : new c (World.new map (map.cellOrigin col row) c) <;>
      simp [Except.mapError, bind, Except.bind, hs]

end GridScript.Session
