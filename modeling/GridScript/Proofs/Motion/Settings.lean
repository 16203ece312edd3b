import GridScript.Proofs.Motion.Tick

/-!
The settings that a scheduler goes by.

Only the two setters change them: staging, clearing and ticks leave them as they are.
-/

namespace GridScript.Scheduler

/-- The settings of a scheduler. Those that it does not know are the defaults. -/
def settings (s : Scheduler) : Config where
  tileSize := s.tileSize
  actionDelay := s.gate.delay
  moveSpeed := s.moveSpeed
  frameDelay := s.frameDelay

@[simp] lemma settings_stage (s : Scheduler) (a : Action) : (s.stage a).settings = s.settings := by
  rw [stage_eq]
  rfl

@[simp] lemma settings_clear (s : Scheduler) : s.clear.settings = s.settings := rfl

@[simp] lemma settings_tick {σ : Type} [Scene σ] (s : Scheduler) (now : Millis) (w : σ) :
    (s.tick now w).scheduler.settings = s.settings := by
  have hstep := s.tick_spec now w
  generalize s.tick now w = r at hstep
  cases hstep <;> rfl

lemma stride_congr {s t : Scheduler} (h : s.settings = t.settings) : s.stride = t.stride :=
  congrArg (fun c : Config => pixels c.tileSize) h

lemma pace_congr {s t : Scheduler} (h : s.settings = t.settings) : s.pace = t.pace :=
  congrArg (fun c : Config => pixels c.moveSpeed) h

/-- A new scheduler goes by the settings that it is made with, if its lengths do not vanish. -/
lemma settings_new {s : Scheduler} (hspeed : 0 < s.moveSpeed.toNat) (htile : 0 < s.tileSize.toNat) :
    (new s.settings).settings = s.settings := by
  simp only [settings, new, atLeastOne_of_pos hspeed, atLeastOne_of_pos htile]

end GridScript.Scheduler
