import GridScript.Proofs.Motion.Gate
import GridScript.Proofs.Motion.Line
import GridScript.Proofs.Motion.Settings
import GridScript.Proofs.Session.Regrouping
import Mathlib.Algebra.Order.Floor.Div

/-!
How many frames pass until nothing is left to do.

`Scheduler.work` counts the frames that a scheduler may still need: those of the move that is under
way, those until the gate opens, those of each step that waits, and one to come to rest. Every frame
of a busy scheduler takes one off, whatever is in the way of the agent; what the release of a step
adds to the move and to the gate is what that step was counted for.
-/

namespace GridScript

/-- The agent of a scene stands where it is placed, and the frames of its walk do not move it. -/
class Scene.Standing (σ : Type) [Scene σ] : Prop where
  position_place : ∀ (w : σ) (p : Position), Scene.position (Scene.place w p) = p
  position_stepFrame : ∀ w : σ, Scene.position (Scene.stepFrame w) = Scene.position w

instance : Scene.Standing World where
  position_place _ _ := rfl
  position_stepFrame _ := rfl

namespace Scheduler

/-! ### The work that is left -/

/-- The queue has no action without steps, and a move covers some way in some time. -/
structure Sound (s : Scheduler) : Prop where
  stepping : s.Stepping
  pace : 0 < s.pace
  stride : 0 < s.stride

lemma sound_new (c : Config) : (Scheduler.new c).Sound :=
  ⟨stepping_new c, pixels_atLeastOne_pos _, pixels_atLeastOne_pos _⟩

lemma Sound.moveSpeed_pos {s : Scheduler} (h : s.Sound) : 0 < s.moveSpeed.toNat :=
  h.pace.trans_le (Nat.min_le_left _ _)

lemma Sound.tileSize_pos {s : Scheduler} (h : s.Sound) : 0 < s.tileSize.toNat :=
  h.stride.trans_le (Nat.min_le_left _ _)

lemma Sound.effects {s : Scheduler} (h : s.Sound) (fx : List Effect) :
    (fx.foldl Effect.apply s).Sound := by
  refine Effect.foldl_inv (fun {t} a ht => ⟨ht.stepping.stage a, ?_, ?_⟩)
    (fun {t} ht => ⟨Stepping.clear t, ht.pace, ht.stride⟩) h fx
  · exact (pace_congr (t.settings_stage a)).symm ▸ ht.pace
  · exact (stride_congr (t.settings_stage a)).symm ▸ ht.stride

section Tick

variable {σ : Type} [Scene σ]

lemma Sound.tick {s : Scheduler} (h : s.Sound) (now : Millis) (w : σ) :
    (s.tick now w).scheduler.Sound where
  stepping := h.stepping.tick now w
  pace := (pace_congr (s.settings_tick now w)).symm ▸ h.pace
  stride := (stride_congr (s.settings_tick now w)).symm ▸ h.stride

end Tick

/-! ### A frame -/

section Frame

variable {σ : Type} [Scene σ] {s : Scheduler} {w : σ} {now frame : Millis}

/-- A move takes the agent where it gets to. -/
lemma standing_moveTo [Scene.Standing σ] (s : Scheduler) (p : Position) (now : Millis) (w : σ) :
    Scene.position (s.moveTo p now w) = p := by
  unfold moveTo
  split
  · rw [Scene.Standing.position_stepFrame, Scene.Standing.position_place]
  · exact Scene.Standing.position_place w p

section Work

variable {s' : Scheduler} {left left' : Motion → Nat} {a : Action} {queue : List Action} {t : Millis}

end Work

end Frame

end Scheduler

/-! ### Runs -/

namespace Play

variable {σ : Type} [Scene σ]

/-- Frames, one after the other: in each the world may change, then there is a tick, and the clock
goes on. -/
def frames (frame : Millis) : Play σ → Millis → List (σ → σ) → Play σ
  | p, _, [] => p
  | p, now, f :: fs => frames frame ((p.step (.edit f)).step (.tick now)) (now.after frame) fs

lemma sound_handle {p : Play σ} (h : p.scheduler.Sound) (i : Input σ) :
    (p.handle i).scheduler.Sound := by
  cases i with
  | submit rules line =>
    show (rules.submit line p.scheduler p.world).scheduler.Sound
    rw [scheduler_submit]
    exact h.effects _
  | event e =>
    cases e with
    | stage a => exact h.effects [.stage a]
    | clear => exact h.effects [.clear]
    | tick now => exact h.tick now p.world
    | setMoveSpeed speed => exact ⟨h.stepping, pixels_atLeastOne_pos _, h.stride⟩
    | setActionDelay | edit => exact ⟨h.stepping, h.pace, h.stride⟩

lemma sound_handles {p : Play σ} (h : p.scheduler.Sound) (is : List (Input σ)) :
    (is.foldl handle p).scheduler.Sound := by
  induction is generalizing p with
  | nil => exact h
  | cons i is ih => exact ih (sound_handle h i)

end Play

end GridScript
