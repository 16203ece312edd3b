import GridScript.Proofs.Motion.Settings
import GridScript.Proofs.Session.Drain

/-!
Clearing a scheduler is as good as starting afresh.

What a clear does not reset is the stamp of the last walk frame, and nothing but the walk frame of
the agent depends on it. `Play.frameless` forgets the two; it commutes with every input, so two plays
that agree without them report the same and look the same, but for the walk frame, ever after. An
edit of the world that looks at the frame could tell the two apart, so the edits are asked not to.
-/

namespace GridScript

/-- The scheduler without the stamp of the last walk frame. -/
def Scheduler.frameless (s : Scheduler) : Scheduler := { s with lastFrame := none }

/-- What can be seen, but for the walk frame. -/
def View.frameless (v : View World) : View World := { v with world := v.world.setFrame 0 }

/-- The input does not look at the walk frame: an edit may set the frame, but does not change
anything else because of it. -/
def Input.BlindToFrame : Input World → Prop
  | .event (.edit f) => ∀ (w : World) (frame : UInt8),
      (f (w.setFrame frame)).setFrame 0 = (f w).setFrame 0
  | _ => True

namespace Scheduler

lemma frameless_stage (s : Scheduler) (a : Action) :
    (s.stage a).frameless = s.frameless.stage a := by
  unfold stage
  split <;> rfl

lemma frameless_effects (s : Scheduler) (fx : List Effect) :
    (fx.foldl Effect.apply s).frameless = fx.foldl Effect.apply s.frameless := by
  refine (List.foldl_hom frameless fun t e => ?_).symm
  cases e with
  | stage a => exact (t.frameless_stage a).symm
  | clear => rfl

/-- A clear leaves what a new scheduler with the same settings has, but for the stamp. -/
lemma frameless_clear {s : Scheduler} (h : s.Sound) :
    s.clear.frameless = (new s.settings).frameless := by
  simp only [clear, Scheduler.frameless, new, settings, atLeastOne_of_pos h.moveSpeed_pos,
    atLeastOne_of_pos h.tileSize_pos]

/-- A tick does the same without the stamp and the frame, but for these two. -/
lemma Tick.frameless {s : Scheduler} {now : Millis} {w : World} {r : Ticked World}
    (h : Tick s now w r) :
    ∃ r', Tick s.frameless now (w.setFrame 0) r' ∧ r'.outcome = r.outcome ∧
      r'.scheduler.frameless = r.scheduler.frameless ∧
      r'.world.setFrame 0 = r.world.setFrame 0 := by
  cases h with
  | arrive m hm near => exact ⟨_, .arrive m hm near, rfl, rfl, rfl⟩
  | block m hm far hit => exact ⟨_, .block m hm far hit, rfl, rfl, rfl⟩
  | go m hm far free =>
    refine ⟨_, .go m hm far free, rfl, rfl, ?_⟩
    rw [setFrame_moveTo, setFrame_moveTo]
    rfl
  | idle hm hq => exact ⟨_, .idle hm hq, rfl, rfl, rfl⟩
  | gated hm hq closed => exact ⟨_, .gated hm hq closed, rfl, rfl, rfl⟩
  | drop a queue d hm hq gate ha hit =>
    exact ⟨_, .drop a queue d hm hq gate ha hit, rfl, rfl, rfl⟩
  | start a queue d hm hq gate ha free =>
    exact ⟨_, .start a queue d hm hq gate ha free, rfl, rfl, rfl⟩
  | turn d queue hm hq gate => exact ⟨_, .turn d queue hm hq gate, rfl, rfl, rfl⟩
  | wait ms queue hm hq gate => exact ⟨_, .wait ms queue hm hq gate, rfl, rfl, rfl⟩
  | print text queue hm hq gate => exact ⟨_, .print text queue hm hq gate, rfl, rfl, rfl⟩

end Scheduler

namespace Play

/-- The play without the stamp of the last walk frame and the frame itself. -/
def frameless (p : Play World) : Play World := ⟨p.scheduler.frameless, p.world.setFrame 0⟩

lemma frameless_view (p : Play World) : p.frameless.view = p.view.frameless := rfl

/-- An input does the same without the stamp and the frame, but for these two. -/
lemma frameless_handle (p : Play World) {i : Input World} (hi : i.BlindToFrame) :
    p.frameless.reply? i = p.reply? i ∧
      (p.frameless.handle i).frameless = (p.handle i).frameless := by
  cases i with
  | event e =>
    cases e with
    | tick now =>
      obtain ⟨r, hr, hout, hsched, hworld⟩ := (p.scheduler.tick_spec now p.world).frameless
      have htick : p.frameless.ticked now = r := hr.tick_eq
      have hreply : p.frameless.reply? (.event (.tick now)) = some (.outcome r.outcome) :=
        congrArg (fun r : Ticked World => some (Reply.outcome r.outcome)) htick
      have hhandle : p.frameless.handle (.event (.tick now)) = ⟨r.scheduler, r.world⟩ :=
        congrArg (fun r : Ticked World => (⟨r.scheduler, r.world⟩ : Play World)) htick
      rw [hreply, hhandle, hout]
      exact ⟨rfl, congrArg₂ Play.mk hsched hworld⟩
    | stage a =>
      refine ⟨rfl, congrArg₂ Play.mk ?_ rfl⟩
      show (p.scheduler.frameless.stage a).frameless = (p.scheduler.stage a).frameless
      rw [Scheduler.frameless_stage, Scheduler.frameless_stage]
      rfl
    | edit f => exact ⟨rfl, congrArg₂ Play.mk rfl (hi p.world 0)⟩
    | clear | setActionDelay | setMoveSpeed => exact ⟨rfl, rfl⟩
  | submit rules line =>
    have hreport : (rules.submit line p.frameless.scheduler p.frameless.world).report =
        (rules.submit line p.scheduler p.world).report :=
      report_submit rules line p.frameless.scheduler p.world p.scheduler
    have hreading : Scene.reading p.frameless.world = Scene.reading p.world := rfl
    refine ⟨congrArg (fun r => some (Reply.report r)) hreport, ?_⟩
    rw [handle_submit, handle_submit]
    refine congrArg₂ Play.mk ?_ ?_
    · rw [scheduler_submit, scheduler_submit, Scheduler.frameless_effects,
        Scheduler.frameless_effects, hreading]
      rfl
    · rw [world_submit, world_submit, hreport]
      split <;> rfl

/-- Plays that agree without the stamp and the frame report the same and look the same, but for the
frame. -/
lemma observed_of_frameless {p q : Play World} (h : p.frameless = q.frameless)
    {is : List (Input World)} (his : ∀ i ∈ is, i.BlindToFrame) :
    (p.observed is).map (Prod.map id View.frameless) =
      (q.observed is).map (Prod.map id View.frameless) := by
  induction is generalizing p q with
  | nil => rfl
  | cons i is ih =>
    obtain ⟨hi, his⟩ := List.forall_mem_cons.1 his
    obtain ⟨hreply, hnext⟩ := p.frameless_handle hi
    obtain ⟨hreply', hnext'⟩ := q.frameless_handle hi
    rw [h] at hreply hnext
    have hsame : (p.handle i).frameless = (q.handle i).frameless := hnext.symm.trans hnext'
    have hview : (p.handle i).view.frameless = (q.handle i).view.frameless := by
      rw [← frameless_view, ← frameless_view, hsame]
    rw [observed_cons, observed_cons, List.map_cons, List.map_cons, ih hsame his, Prod.map_apply,
      Prod.map_apply, hview, ← hreply, hreply']

/-- **Clearing is as good as starting afresh**: after any run, take a scheduler that is cleared and a
new one with the same settings, both in the world as it is. They look the same, and whatever inputs
follow, the same for both, they report the same after each and look the same, but for the walk frame
of the agent. A clear after a clear does nothing, and no clear changes the world. -/
theorem clear_eq_new (c : Config) (w : World) (is : List (Input World)) {js : List (Input World)}
    (hjs : ∀ j ∈ js, j.BlindToFrame) :
    let p := is.foldl handle (start c w)
    let cleared := p.step .clear
    let fresh : Play World := ⟨Scheduler.new p.scheduler.settings, p.world⟩
    fresh.scheduler.settings = p.scheduler.settings ∧
      cleared.view = fresh.view ∧
      (cleared.observed js).map (Prod.map id View.frameless) =
        (fresh.observed js).map (Prod.map id View.frameless) ∧
      cleared.step .clear = cleared ∧
      cleared.world = p.world := by
  intro p cleared fresh
  have hsound : p.scheduler.Sound := sound_handles (p := start c w) (Scheduler.sound_new c) is
  have hsame : cleared.frameless = fresh.frameless :=
    congrArg (Play.mk · (p.world.setFrame 0)) (Scheduler.frameless_clear hsound)
  exact ⟨Scheduler.settings_new hsound.moveSpeed_pos hsound.tileSize_pos, rfl,
    observed_of_frameless hsame hjs, rfl, rfl⟩

/-- A walk that is cleared when its first step is half way. -/
def cutShort : List (Input World) :=
  [.submit rowConfig.rules "walk 2 right", .event (.tick 0), .event (.tick 0)]

/-- Another step, and a change of the map. -/
def anew : List (Input World) :=
  [.submit rowConfig.rules "move right", .event (.tick 0), .event (.edit (·.setTile 0 0 3)),
    .event (.tick 1)]

/-- The walk frame does tell the two apart: it has just changed for the one that is cleared. -/
theorem clear_eq_new_row :
    let p := cutShort.foldl handle (start rowConfig rowWorld)
    let cleared := p.step .clear
    let fresh : Play World := ⟨Scheduler.new p.scheduler.settings, p.world⟩
    p.scheduler.motion = some ⟨⟨0, 0⟩, ⟨2, 0⟩⟩ ∧ p.world.agent.position = ⟨1, 0⟩ ∧
      (∀ j ∈ anew, j.BlindToFrame) ∧
      (cleared.observed anew).map (Prod.map id View.frameless) =
        (fresh.observed anew).map (Prod.map id View.frameless) ∧
      (cleared.observed anew).map Prod.fst =
        [some (.report ⟨true, [], 1, false⟩), some (.outcome (.executed (.step .right))), none,
          some (.outcome .moved)] ∧
      cleared.observed anew ≠ fresh.observed anew := by
  have hblind : ∀ j ∈ anew, j.BlindToFrame := by
    simp only [anew, List.forall_mem_cons, Input.BlindToFrame]
    exact ⟨trivial, trivial, fun _ _ => rfl, trivial, fun _ h => nomatch h⟩
  obtain ⟨-, -, hobserved, -⟩ := clear_eq_new rowConfig rowWorld cutShort hblind
  exact ⟨by decide +kernel, by decide +kernel, hblind, hobserved, by decide +kernel,
    by decide +kernel⟩

end Play

end GridScript
