import GridScript.Proofs.Motion.Run
import GridScript.Proofs.World.Obstacles

/-!
No tick puts the agent where something is in the way.

A move that goes on is checked at each tick. The end of a move is not: its target was checked when
the move set out, and stays free as long as nobody puts something in the way meanwhile.
-/

namespace GridScript

namespace Scheduler

variable {s : Scheduler} {now : Millis} {w : World}

/-- Where a move gets to was checked. -/
lemma free_of_moved (h : (s.tick now w).outcome = .moved) :
    Scene.blockedAt w (s.tick now w).world.agent.position = false := by
  have hstep := s.tick_spec now w
  generalize s.tick now w = r at hstep h ⊢
  cases hstep with
  | go m hm far free => rwa [position_moveTo]
  | arrive | block | idle | gated | drop | start | turn | wait | print => cases h

lemma target_of_arrived (h : (s.tick now w).outcome = .arrived) :
    ∃ m, s.motion = some m ∧ (s.tick now w).world.agent.position = m.target := by
  have hstep := s.tick_spec now w
  generalize s.tick now w = r at hstep h ⊢
  cases hstep with
  | arrive m hm near => exact ⟨m, hm, rfl⟩
  | go | block | idle | gated | drop | start | turn | wait | print => cases h

/-- A move after a tick was under way before or has just set out for a target that is free. -/
lemma motion_tick {m : Motion} (h : (s.tick now w).scheduler.motion = some m) :
    s.motion = some m ∨ s.motion = none ∧ Scene.blockedAt w m.target = false := by
  have hstep := s.tick_spec now w
  generalize s.tick now w = r at hstep h
  cases hstep with
  | go | gated | idle => exact .inl h
  | start a queue d hm hq gate ha free =>
    obtain rfl := Option.some.inj h
    exact .inr ⟨hm, free⟩
  | arrive | block => cases h
  | drop _ _ _ hm | turn _ _ hm | wait _ _ hm | print _ _ hm => cases hm.symm.trans h

end Scheduler

/-! ### Runs -/

namespace Play

/-- A tick at this reading sets out on a move. -/
structure Starts (p : Play World) (now : Millis) (m : Motion) : Prop where
  rest : p.scheduler.motion = none
  starts : (p.ticked now).scheduler.motion = some m

lemma Starts.free {p : Play World} {now : Millis} {m : Motion} (h : p.Starts now m) :
    Scene.blockedAt p.world m.target = false := by
  rcases Scheduler.motion_tick h.starts with hm | ⟨-, hfree⟩
  · cases h.rest.symm.trans hm
  · exact hfree

/-- An event leaves a move under way, ends it or starts it. -/
lemma motion_step {p : Play World} {e : Event World} {m : Motion}
    (h : (p.step e).scheduler.motion = some m) :
    p.scheduler.motion = some m ∨ ∃ now, e = .tick now ∧ p.Starts now m := by
  cases e with
  | tick now =>
    rcases Scheduler.motion_tick h with hm | ⟨hrest, -⟩
    · exact .inl hm
    · exact .inr ⟨now, rfl, hrest, h⟩
  | stage a => exact .inl ((congrArg Scheduler.motion (p.scheduler.stage_eq a)).symm.trans h)
  | clear => cases h
  | setActionDelay | setMoveSpeed | edit => exact .inl h

/-- A move that is under way set out at some tick of the run and has been under way since. -/
lemma start_of_motion {p : Play World} (hp : p.scheduler.motion = none) {es : List (Event World)}
    {m : Motion} (h : (p.run es).scheduler.motion = some m) :
    ∃ before now since, es = before ++ .tick now :: since ∧ (p.run before).Starts now m ∧
      ∀ part, part <+: since → (p.run (before ++ .tick now :: part)).scheduler.motion = some m := by
  induction es using List.reverseRecOn with
  | nil => cases hp.symm.trans h
  | append_singleton es e ih =>
    rw [run_append, run_cons, run_nil] at h
    rcases motion_step h with hm | ⟨now, rfl, hstarts⟩
    -- the last event has left the move alone
    · obtain ⟨before, now, since, rfl, hstarts, hsince⟩ := ih hm
      refine ⟨before, now, since ++ [e], by simp, hstarts, fun part hpart => ?_⟩
      rcases List.prefix_concat_iff.1 hpart with rfl | hpart
      · rw [← List.cons_append, ← List.append_assoc, run_append, run_cons, run_nil]
        exact h
      · exact hsince part hpart
    · refine ⟨es, now, [], rfl, hstarts, fun part hpart => ?_⟩
      rw [List.prefix_nil.1 hpart, run_append, run_cons, run_nil]
      exact h

/-- The event puts nothing in the way while a move is under way. -/
def Considerate (p : Play World) : Event World → Prop
  | .edit f => p.scheduler.motion = none ∨ p.world.SameObstacles (f p.world)
  | _ => True

/-- Every event of a run is considerate when it happens. -/
def ConsiderateRun : Play World → List (Event World) → Prop
  | _, [] => True
  | p, e :: es => p.Considerate e ∧ ConsiderateRun (p.step e) es

/-- Nothing is in the way at the target of a move that is under way. -/
def ClearAhead (p : Play World) : Prop :=
  ∀ m, p.scheduler.motion = some m → Scene.blockedAt p.world m.target = false

lemma ClearAhead.step {p : Play World} (h : p.ClearAhead) {e : Event World}
    (he : p.Considerate e) : (p.step e).ClearAhead := by
  intro m hm
  have hfree : Scene.blockedAt p.world m.target = false := by
    rcases motion_step hm with hm | ⟨now, -, hstarts⟩
    · exact h m hm
    · exact hstarts.free
  cases e with
  | tick now =>
    exact ((Scheduler.sameObstacles_tick p.scheduler now p.world).blockedAt_eq m.target).trans hfree
  | edit f =>
    rcases he with hrest | hsame
    · cases hrest.symm.trans hm
    · exact (hsame.blockedAt_eq m.target).trans hfree
  | stage | clear | setActionDelay | setMoveSpeed => exact hfree

lemma ClearAhead.run {p : Play World} (h : p.ClearAhead) {es : List (Event World)}
    (hes : p.ConsiderateRun es) : (p.run es).ClearAhead := by
  induction es generalizing p with
  | nil => exact h
  | cons e es ih => exact ih (h.step hes.1) hes.2

/-- **The agent is never put into something**: where a tick moves the agent on, nothing is in the
way. Where a move ends, nothing was in the way when it set out, which was at a tick of the run since
which it has been under way. No other tick takes the agent anywhere, and no tick puts anything in
the way. So if nobody puts anything in the way while a move is under way, nothing is in the way at
its end either. -/
theorem free_of_placed (c : Config) (w : World) (es : List (Event World)) (now : Millis) :
    let p := (start c w).run es
    let r := p.ticked now
    let here := r.world.agent.position
    (r.outcome = .moved → Scene.blockedAt p.world here = false) ∧
      (r.outcome = .arrived → ∃ m before t since, p.scheduler.motion = some m ∧ here = m.target ∧
        es = before ++ .tick t :: since ∧ ((start c w).run before).Starts t m ∧
        (∀ part, part <+: since →
          ((start c w).run (before ++ .tick t :: part)).scheduler.motion = some m) ∧
        Scene.blockedAt ((start c w).run before).world m.target = false) ∧
      (r.outcome ≠ .moved → r.outcome ≠ .arrived → here = p.world.agent.position) ∧
      p.world.SameObstacles r.world ∧
      ((start c w).ConsiderateRun es → r.outcome = .moved ∨ r.outcome = .arrived →
        Scene.blockedAt r.world here = false) := by
  intro p r here
  have hsame : p.world.SameObstacles r.world := p.scheduler.sameObstacles_tick now p.world
  refine ⟨Scheduler.free_of_moved, fun harrived => ?_, Scheduler.position_of_not_moved, hsame,
    fun hes hplaced => (hsame.blockedAt_eq here).trans ?_⟩
  · obtain ⟨m, hm, hhere⟩ := Scheduler.target_of_arrived harrived
    obtain ⟨before, t, since, hes, hstarts, hsince⟩ := start_of_motion rfl hm
    exact ⟨m, before, t, since, hm, hhere, hes, hstarts, hsince, hstarts.free⟩
  · have hrest : (start c w).scheduler.motion = none := rfl
    have hclear : p.ClearAhead := ClearAhead.run (fun m hm => nomatch hrest.symm.trans hm) hes
    rcases hplaced with hmoved | harrived
    · exact Scheduler.free_of_moved hmoved
    · obtain ⟨m, hm, hhere⟩ := Scheduler.target_of_arrived harrived
      rw [show here = m.target from hhere]
      exact hclear m hm

/-- A step to the right, with the agent pushed ahead on its way. -/
def pushed : List (Event World) := [.stage (.step .right), .tick 0, .edit (·.place ⟨1, 0⟩)]

theorem free_of_placed_pushed :
    let p := (start rowConfig rowWorld).run pushed
    (start rowConfig rowWorld).ConsiderateRun pushed ∧
      (p.ticked 0).outcome = .arrived ∧ (p.ticked 0).world.agent.position = ⟨2, 0⟩ ∧
      Scene.blockedAt (p.ticked 0).world ⟨2, 0⟩ = false := by
  have hconsiderate : (start rowConfig rowWorld).ConsiderateRun pushed :=
    ⟨trivial, trivial, .inr ⟨rfl, rfl, rfl, rfl⟩, trivial⟩
  have harrived : (((start rowConfig rowWorld).run pushed).ticked 0).outcome = .arrived := by
    decide +kernel
  have hhere : (((start rowConfig rowWorld).run pushed).ticked 0).world.agent.position = ⟨2, 0⟩ := by
    decide +kernel
  obtain ⟨-, -, -, -, hfree⟩ := free_of_placed rowConfig rowWorld pushed 0
  have hclear := hfree hconsiderate (.inr harrived)
  rw [hhere] at hclear
  exact ⟨hconsiderate, harrived, hhere, hclear⟩

end Play

end GridScript
