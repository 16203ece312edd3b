import GridScript.Proofs.Motion.Fifo
import GridScript.Proofs.World.Obstacles

/-!
The gate between two releases.

The gate counts from the last release since the last clear, and from the end of a wait if that is
what was released; no other event moves its stamp. So a step is held up exactly as long as the delay
that is set when it is to be released has not yet passed since then.
-/

namespace GridScript

/-- The time by which an action puts off what follows it. -/
def Action.hold : Action → Millis
  | .wait ms => ms
  | _ => 0

/-- A step, and the reading of the clock at its release. -/
structure Release where
  step : Action
  time : Millis
deriving DecidableEq

namespace Release

/-- The reading from which the delay counts. -/
def stamp (r : Release) : Millis := r.time.after r.step.hold

/-- The reading at which the next step is due. A wait does not reach beyond the last reading, but
the delay may. -/
def due (r : Release) (delay : Millis) : Nat :=
  min (r.time.toNat + r.step.hold.toNat) Millis.last.toNat + delay.toNat

lemma due_eq (r : Release) (delay : Millis) : r.due delay = r.stamp.toNat + delay.toNat := by
  rw [due, stamp, Millis.toNat_after]

end Release

lemma Gate.isOpen_iff {g : Gate} {now : Millis} :
    g.isOpen now = true ↔ ∀ last, g.last = some last → last.toNat + g.delay.toNat ≤ now.toNat := by
  unfold isOpen
  cases g.last with
  | none => simp
  | some last =>
    simp only [Bool.and_eq_true, decide_eq_true_eq, UInt64.le_iff_toNat_le, Option.some.injEq,
      forall_eq']
    refine ⟨fun ⟨hle, hdelay⟩ => ?_, fun h => ?_⟩
    · rw [UInt64.toNat_sub_of_le _ _ hle] at hdelay
      omega
    · have hle : last ≤ now := by
        rw [UInt64.le_iff_toNat_le]
        omega
      rw [UInt64.toNat_sub_of_le _ _ hle]
      omega

/-! ### The stamp -/

namespace Scheduler

variable {σ : Type} [Scene σ]

/-- A tick moves the stamp when it releases a step, and only then. -/
lemma last_tick (s : Scheduler) (now : Millis) (w : σ) :
    (s.tick now w).scheduler.gate.last =
      ((s.tick now w).outcome.released?.map fun a => (Release.mk a now).stamp).or s.gate.last := by
  have hstep := s.tick_spec now w
  generalize s.tick now w = r at hstep
  cases hstep with
  | arrive | block | go | idle | gated => rfl
  | drop | start | turn | print => exact congrArg some now.after_zero.symm
  | wait => rfl

/-- A step is released through an open gate. -/
lemma isOpen_of_released {s : Scheduler} {now : Millis} {w : σ} {a : Action}
    (h : (s.tick now w).outcome.released? = some a) : s.gate.isOpen now = true := by
  have hstep := s.tick_spec now w
  generalize s.tick now w = r at hstep h
  cases hstep with
  | arrive | block | go | idle | gated => cases h
  | drop _ _ _ _ _ gate | start _ _ _ _ _ gate => exact gate
  | turn _ _ _ _ gate | wait _ _ _ _ gate | print _ _ _ _ gate => exact gate

lemma outcome_eq_gated_iff {s : Scheduler} {now : Millis} {w : σ} :
    (s.tick now w).outcome = .gated ↔
      s.motion = none ∧ s.queue ≠ [] ∧ s.gate.isOpen now = false := by
  refine ⟨fun h => ?_, fun ⟨hm, hq, closed⟩ => ?_⟩
  · have hstep := s.tick_spec now w
    generalize s.tick now w = r at hstep h
    cases hstep with
    | gated hm hq closed => exact ⟨hm, hq, closed⟩
    | arrive | block | go | idle | drop | start | turn | wait | print => cases h
  · rw [(Tick.gated hm hq closed : Tick s now w _).tick_eq]

end Scheduler

/-! ### Runs -/

namespace Play

variable {σ : Type}

/-- What an event has released, and when. -/
def release? : Event σ × Option Outcome → Option Release
  | (.tick now, some o) => o.released?.map fun a => ⟨a, now⟩
  | _ => none

/-- The last release in a transcript since its last clear. -/
def lastRelease? (t : List (Event σ × Option Outcome)) : Option Release :=
  ((sinceClear t).filterMap release?).getLast?

lemma lastRelease?_concat (t : List (Event σ × Option Outcome)) {e : Event σ}
    (he : e.isClear = false) (o : Option Outcome) :
    lastRelease? (t ++ [(e, o)]) = (release? (e, o)).or (lastRelease? t) := by
  rw [lastRelease?, lastRelease?, sinceClear_concat t he, List.filterMap_append,
    List.getLast?_append]
  cases h : release? (e, o) <;> simp [h]

variable [Scene σ]

lemma release?_tick (p : Play σ) (now : Millis) :
    release? ((.tick now : Event σ), p.outcome? (.tick now)) =
      (p.ticked now).outcome.released?.map fun a => ⟨a, now⟩ := rfl

/-- The stamp of the gate is that of the last release since the last clear. -/
lemma last_run (c : Config) (w : σ) (es : List (Event σ)) :
    ((start c w).run es).scheduler.gate.last =
      (lastRelease? ((start c w).transcript es)).map Release.stamp := by
  induction es using List.reverseRecOn with
  | nil => rfl
  | append_singleton es e ih =>
    rw [transcript_append, run_append, transcript_cons, transcript_nil, run_cons, run_nil]
    cases e with
    | clear =>
      rw [lastRelease?, sinceClear_concat_clear]
      rfl
    | tick now =>
      rw [lastRelease?_concat _ rfl, Option.map_or, ← ih, release?_tick, Option.map_map]
      exact Scheduler.last_tick _ now _
    | stage a =>
      rw [lastRelease?_concat _ rfl]
      exact (congrArg (·.gate.last) (Scheduler.stage_eq _ a)).trans ih
    | setActionDelay | setMoveSpeed | edit =>
      rw [lastRelease?_concat _ rfl]
      exact ih

/-- **The gate**: a tick that releases a step does so no earlier than this step is due after the
last release since the last clear. A tick that could release one is held up by the gate if and only
if it comes earlier than that; so the first step after a clear, or of all, is never held up. -/
theorem gated_iff_not_due (c : Config) (w : σ) (es : List (Event σ)) (now : Millis) :
    let p := (start c w).run es
    let last? := lastRelease? ((start c w).transcript es)
    let delay := p.scheduler.gate.delay
    let o := (p.ticked now).outcome
    (∀ a, o.released? = some a → ∀ r, last? = some r → r.due delay ≤ now.toNat) ∧
      (p.scheduler.motion = none → p.scheduler.queue ≠ [] →
        (o = .gated ↔ ∃ r, last? = some r ∧ now.toNat < r.due delay)) ∧
      (last? = none → o ≠ .gated) := by
  intro p last? delay o
  have hlast : p.scheduler.gate.last = last?.map Release.stamp := last_run c w es
  have hopen : p.scheduler.gate.isOpen now = true ↔
      ∀ r, last? = some r → r.due delay ≤ now.toNat := by
    -- the stamp is the only thing that the gate knows of the last release
    rw [Gate.isOpen_iff, hlast]
    simp only [Option.map_eq_some_iff, forall_exists_index, and_imp, forall_apply_eq_imp_iff₂,
      Release.due_eq]
    exact Iff.rfl
  have hgated : o = .gated ↔ p.scheduler.motion = none ∧ p.scheduler.queue ≠ [] ∧
      p.scheduler.gate.isOpen now = false := Scheduler.outcome_eq_gated_iff
  refine ⟨fun a ha => hopen.1 (Scheduler.isOpen_of_released ha), fun hm hq => ?_, fun hnone h => ?_⟩
  · rw [hgated, ← Bool.not_eq_true, hopen]
    simp [hm, hq]
  · have hclosed := (hgated.1 h).2.2
    rw [hopen.2 fun r hr => nomatch hnone.symm.trans hr] at hclosed
    cases hclosed

/-- A wait that reaches beyond the last reading, and a turn to come after it. -/
def longWait : List (Event World) :=
  [.stage (.wait 18446744073709551000), .stage (.turn .left), .tick 1000, .setActionDelay 0]

/-- The turn comes at the last reading and not before. -/
theorem gated_iff_not_due_longWait :
    let p := (start rowConfig rowWorld).run longWait
    p.scheduler.motion = none ∧ p.scheduler.queue ≠ [] ∧
      (p.ticked 18446744073709551614).outcome = .gated ∧
      (p.ticked 18446744073709551615).outcome = .executed (.turn .left) ∧
      (Release.mk (.wait 18446744073709551000) 1000).due 0 ≤ Millis.last.toNat := by
  intro p
  have hm : p.scheduler.motion = none := by decide +kernel
  have hq : p.scheduler.queue ≠ [] := by decide +kernel
  have hlast : lastRelease? ((start rowConfig rowWorld).transcript longWait) =
      some ⟨.wait 18446744073709551000, 1000⟩ := by decide +kernel
  have hturn : (p.ticked 18446744073709551615).outcome = .executed (.turn .left) := by
    decide +kernel
  obtain ⟨-, hgated, -⟩ := gated_iff_not_due rowConfig rowWorld longWait 18446744073709551614
  obtain ⟨hdue, -, -⟩ := gated_iff_not_due rowConfig rowWorld longWait 18446744073709551615
  exact ⟨hm, hq, (hgated hm hq).2 ⟨_, hlast, by decide +kernel⟩, hturn,
    hdue _ (congrArg Outcome.released? hturn) _ hlast⟩

end Play

end GridScript
