import GridScript.Proofs.Motion.Line
import GridScript.Proofs.Motion.Settings
import GridScript.Proofs.Session.Drain
import GridScript.Proofs.Session.Unfolding

/-!
What holds of a scheduler in every state.

The queue, the move, the stamp of the gate and the flag of a run under way are set and reset apart;
they fit together all the same. A move has left its stamp and its flag, and leads one stride along
one axis. The flag is up if and only if a step was released since the scheduler last came to rest,
which is what an idle tick and a clear do.
-/

namespace GridScript

namespace Scheduler

/-- A move as it is under way: one stride long, with the marks of its release. -/
structure Underway (s : Scheduler) (m : Motion) : Prop where
  target : ∃ d : Direction, m.target = m.origin.along d s.stride
  executing : s.executing = true
  stamped : s.gate.last ≠ none

/-- What leaves the move, its length and its marks alone keeps it under way. -/
lemma Underway.congr {s t : Scheduler} {m : Motion} (h : s.Underway m)
    (hsettings : t.settings = s.settings) (hexecuting : t.executing = s.executing)
    (hlast : t.gate.last = s.gate.last) : t.Underway m where
  target := stride_congr hsettings ▸ h.target
  executing := hexecuting.trans h.executing
  stamped := hlast ▸ h.stamped

/-- A stride in some direction goes along one axis. -/
lemma Underway.axis {s : Scheduler} {m : Motion} (h : s.Underway m) :
    (wrap (m.target.x - m.origin.x)).natAbs = s.stride ∧ wrap (m.target.y - m.origin.y) = 0 ∨
      wrap (m.target.x - m.origin.x) = 0 ∧ (wrap (m.target.y - m.origin.y)).natAbs = s.stride := by
  obtain ⟨d, hd⟩ := h.target
  have hlength : (s.stride : ℤ) ≤ maxLength := Int.ofNat_le.2 (pixels_le _)
  rw [hd, Position.along, Position.offset, wrap_shift_sub, wrap_shift_sub,
    wrap_delta_mul d.delta_unit.1 (Int.natCast_nonneg _) hlength,
    wrap_delta_mul d.delta_unit.2 (Int.natCast_nonneg _) hlength]
  cases d <;> simp [Direction.delta]

variable {σ : Type} [Scene σ] {s : Scheduler}

lemma underway_tick (h : ∀ m, s.motion = some m → s.Underway m) (now : Millis) (w : σ) {m : Motion}
    (hm : (s.tick now w).scheduler.motion = some m) : (s.tick now w).scheduler.Underway m := by
  have hstep := s.tick_spec now w
  generalize s.tick now w = r at hstep hm ⊢
  cases hstep with
  | go => exact (h m hm).congr rfl rfl rfl
  | gated => exact h m hm
  | start a queue d =>
    obtain rfl := Option.some.inj hm
    exact ⟨⟨d, rfl⟩, rfl, Option.some_ne_none _⟩
  | arrive | block => cases hm
  | idle hrest | drop _ _ _ hrest | turn _ _ hrest | wait _ _ hrest | print _ _ hrest =>
    cases hrest.symm.trans hm

/-- A release puts the flag up, and an idle tick takes it down. -/
lemma executing_tick (s : Scheduler) (now : Millis) (w : σ) :
    (s.tick now w).scheduler.executing =
      ((s.tick now w).outcome != .idle &&
        (s.executing || (s.tick now w).outcome.released?.isSome)) := by
  have hstep := s.tick_spec now w
  generalize s.tick now w = r at hstep ⊢
  cases hstep with
  | arrive | block | go | gated => exact (Bool.or_false _).symm
  | idle => rfl
  | drop | start | turn | wait | print => exact (Bool.or_true _).symm

end Scheduler

/-! ### Runs -/

namespace Play

variable {σ : Type}

/-- The scheduler comes to rest: it is cleared, or a tick finds nothing to do. -/
def isRest (x : Event σ × Option Outcome) : Bool := x.1.isClear || x.2 == some .idle

/-- What a transcript holds since the scheduler last came to rest. -/
def sinceRest (t : List (Event σ × Option Outcome)) : List (Event σ × Option Outcome) :=
  t.rtakeWhile fun x => !isRest x

lemma released_sinceRest_concat (t : List (Event σ × Option Outcome))
    (x : Event σ × Option Outcome) :
    released (sinceRest (t ++ [x])) =
      if isRest x then [] else released (sinceRest t) ++ (x.2.bind Outcome.released?).toList := by
  cases hx : isRest x with
  | true => simp [sinceRest, List.rtakeWhile_concat_neg, hx, released]
  | false =>
    rw [sinceRest, List.rtakeWhile_concat_pos _ _ _ (by simp [hx])]
    cases hr : x.2.bind Outcome.released? <;> simp [released, hr, sinceRest]

variable [Scene σ]

lemma underway_step {p : Play σ} (h : ∀ m, p.scheduler.motion = some m → p.scheduler.Underway m)
    (e : Event σ) {m : Motion} (hm : (p.step e).scheduler.motion = some m) :
    (p.step e).scheduler.Underway m := by
  cases e with
  | stage a =>
    have hstage : (p.step (.stage a)).scheduler =
        { p.scheduler with queue := (p.scheduler.stage a).queue } := p.scheduler.stage_eq a
    rw [hstage] at hm ⊢
    exact (h m hm).congr rfl rfl rfl
  | tick now => exact Scheduler.underway_tick h now p.world hm
  | clear => cases hm
  | setActionDelay | setMoveSpeed | edit =>
    exact ⟨(h m hm).target, (h m hm).executing, (h m hm).stamped⟩

lemma underway_run {p : Play σ} (h : ∀ m, p.scheduler.motion = some m → p.scheduler.Underway m)
    (es : List (Event σ)) :
    ∀ m, (p.run es).scheduler.motion = some m → (p.run es).scheduler.Underway m :=
  run_inv (P := fun p => ∀ m, p.scheduler.motion = some m → p.scheduler.Underway m)
    (fun _ e hp _ hm => underway_step hp e hm) h es

/-- Nothing changes the tile size. -/
lemma tileSize_run (p : Play σ) (es : List (Event σ)) :
    (p.run es).scheduler.tileSize = p.scheduler.tileSize := by
  refine run_inv (P := fun q => q.scheduler.tileSize = p.scheduler.tileSize)
    (fun q e hq => Eq.trans ?_ hq) rfl es
  cases e with
  | stage a => exact congrArg Config.tileSize (q.scheduler.settings_stage a)
  | tick now => exact congrArg Config.tileSize (q.scheduler.settings_tick now q.world)
  | clear | setActionDelay | setMoveSpeed | edit => rfl

lemma executing_step (p : Play σ) (e : Event σ) :
    (p.step e).scheduler.executing =
      (!isRest (e, p.outcome? e) &&
        (p.scheduler.executing || ((p.outcome? e).bind Outcome.released?).isSome)) := by
  cases e with
  | stage a =>
    refine (congrArg Scheduler.executing (p.scheduler.stage_eq a)).trans ?_
    exact (Bool.or_false _).symm
  | tick now => exact p.scheduler.executing_tick now p.world
  | clear => rfl
  | setActionDelay | setMoveSpeed | edit => exact (Bool.or_false _).symm

/-- The flag is up if and only if a step was released since the scheduler last came to rest. -/
lemma executing_run (c : Config) (w : σ) (es : List (Event σ)) :
    ((start c w).run es).scheduler.executing =
      !(released (sinceRest ((start c w).transcript es))).isEmpty := by
  induction es using List.reverseRecOn with
  | nil => rfl
  | append_singleton es e ih =>
    rw [transcript_append, run_append, transcript_cons, transcript_nil, run_cons, run_nil,
      released_sinceRest_concat, executing_step, ih]
    cases isRest (e, ((start c w).run es).outcome? e) with
    | true => rfl
    | false => cases (((start c w).run es).outcome? e).bind Outcome.released? <;> simp

/-- **A scheduler is consistent**: in every state of a run from a new scheduler with any settings,
with lines among the inputs, each action in the queue has a step, so the queue has no length exactly
if it is empty; the move speed does not vanish; a move that is under way leads one tile along one
axis, with the flag of a run under way up and a stamp on the gate; and the scheduler is busy exactly
if a step waits, a move is under way, or a step was released since it last came to rest. The target
and its difference from the origin are taken as coordinates are, and wrap around at the ends of
these; before the ends they are the sum and the difference of the numbers. -/
theorem consistent_run (c : Config) (w : σ) (is : List (Input σ)) :
    let s := (is.foldl handle (start c w)).scheduler
    let tile := pixels (atLeastOne c.tileSize)
    (∀ a ∈ s.queue, 1 ≤ a.stepCount) ∧
      (s.queueLength = 0 ↔ s.queue = []) ∧
      1 ≤ s.moveSpeed ∧
      (∀ m, s.motion = some m →
        let dx := wrap (m.target.x - m.origin.x)
        let dy := wrap (m.target.y - m.origin.y)
        1 ≤ tile ∧ (dx.natAbs = tile ∧ dy = 0 ∨ dx = 0 ∧ dy.natAbs = tile) ∧
          (∃ d : Direction, m.target = m.origin.along d tile ∧
            ((m.origin.beyond d tile).InRange → m.target = m.origin.beyond d tile)) ∧
          s.executing = true ∧ s.gate.last ≠ none) ∧
      (s.isBusy = true ↔ s.pending ≠ [] ∨ s.motion ≠ none ∨
        released (sinceRest ((start c w).history is)) ≠ []) := by
  intro s tile
  obtain ⟨es, hrun, hhistory⟩ := (start c w).exists_run is
  have hsound : s.Sound := sound_handles (p := start c w) (Scheduler.sound_new c) is
  have hempty : s.pending = [] ↔ s.queue = [] := hsound.stepping.pending_eq_nil
  have hs : s = ((start c w).run es).scheduler := congrArg Play.scheduler hrun
  refine ⟨hsound.stepping, ?_, ?_, fun m hm => ?_, ?_⟩
  · rw [Scheduler.queueLength_eq, List.length_eq_zero_iff, hempty]
  · exact UInt32.le_iff_toNat_le.2 hsound.moveSpeed_pos
  · have hunder : s.Underway m := by
      rw [hs] at hm ⊢
      exact underway_run (p := start c w) (fun _ h => nomatch h) es m hm
    have htile : s.stride = tile := by
      rw [hs, Scheduler.stride, tileSize_run]
      rfl
    obtain ⟨d, hd⟩ := hunder.target
    rw [htile] at hd
    exact ⟨pixels_atLeastOne_pos _, htile ▸ hunder.axis,
      ⟨d, hd, fun hrange => hd.trans (Position.along_eq hrange)⟩, hunder.executing, hunder.stamped⟩
  · have hflag : s.executing = !(released (sinceRest ((start c w).history is))).isEmpty := by
      rw [hs, hhistory]
      exact executing_run c w es
    rw [Scheduler.isBusy, hflag, ne_eq, hempty]
    simp [or_assoc, Option.isSome_iff_ne_none]

end Play

end GridScript
