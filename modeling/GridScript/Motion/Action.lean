import GridScript.Grid.Direction
import GridScript.Motion.Time

/-!
What can be staged for the agent, and the single steps it unrolls to.
-/

namespace GridScript

inductive Action where
  | step (d : Direction)
  | walk (d : Direction) (count : UInt32)
  | turn (d : Direction)
  | wait (ms : Millis)
  | print (text : String)
deriving DecidableEq, Repr

namespace Action

def stepCount : Action → Nat
  | walk _ count => count.toNat
  | _ => 1

/-- The step that an action repeats. -/
def single : Action → Action
  | walk d _ => step d
  | a => a

def steps (a : Action) : List Action := List.replicate a.stepCount a.single

/-- The steps of some actions, one action after the other. -/
def unroll (as : List Action) : List Action := as.flatMap steps

/-- The number of the steps of some actions. -/
def totalSteps (as : List Action) : Nat := as.foldl (fun n a => n + a.stepCount) 0

/-- The first steps of some actions, without unrolling the rest. -/
def firstSteps : Nat → List Action → List Action
  | _, [] => []
  | n, a :: as =>
    let k := min n a.stepCount
    List.replicate k a.single ++ if k < n then firstSteps (n - k) as else []

@[simp] theorem length_steps (a : Action) : a.steps.length = a.stepCount := by
  simp [steps]

theorem foldl_stepCount (as : List Action) (n : Nat) :
    as.foldl (fun n a => n + a.stepCount) n = n + (unroll as).length := by
  induction as generalizing n with
  | nil => rfl
  | cons a as ih =>
    rw [List.foldl_cons, ih]
    simp [unroll, Nat.add_assoc]

theorem totalSteps_eq (as : List Action) : totalSteps as = (unroll as).length := by
  rw [totalSteps, foldl_stepCount, Nat.zero_add]

theorem firstSteps_eq_take (n : Nat) (as : List Action) : firstSteps n as = (unroll as).take n := by
  induction as generalizing n with
  | nil => simp [firstSteps, unroll]
  | cons a as ih =>
    have hu : unroll (a :: as) = a.steps ++ unroll as := by simp [unroll]
    rw [firstSteps, hu, List.take_append, length_steps, steps, List.take_replicate]
    by_cases h : a.stepCount < n
    · rw [Nat.min_eq_right (Nat.le_of_lt h), if_pos h, ih]
    · have hn : n ≤ a.stepCount := Nat.le_of_not_lt h
      rw [Nat.min_eq_left hn, if_neg (Nat.lt_irrefl n), Nat.sub_eq_zero_of_le hn]
      simp

end Action

end GridScript
