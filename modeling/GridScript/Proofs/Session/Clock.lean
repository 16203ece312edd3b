import GridScript.Proofs.Motion.Gate
import GridScript.Proofs.Session.Changes
import Mathlib.Data.List.Forall2

/-!
Runs on a clock that is set by hand, and the same runs some time later.

A tick looks at its reading only to tell how long ago a stamp was made, and makes new stamps from
the reading. So when the clock, the stamps and all the readings to which the clock is set are later
by the same time, a run does the same and every stamp is later by that time, as long as the clock
and the waits do not get to the last reading.
-/

namespace GridScript

/-- The reading `t'` is `d` later than `t`. -/
def Millis.Later (d : Nat) (t t' : Millis) : Prop := t'.toNat = t.toNat + d

namespace Millis.Later

variable {d : Nat} {t t' u u' : Millis}

instance : Decidable (Later d t t') := inferInstanceAs (Decidable (t'.toNat = t.toNat + d))

/-- The time between two readings is the same some time later. -/
lemma since_eq (h : Later d t t') (hu : Later d u u') : since t' u' = since t u := by
  have ht : t'.toNat = t.toNat + d := h
  have hu : u'.toNat = u.toNat + d := hu
  rw [← UInt64.toNat_inj, toNat_since, toNat_since]
  omega

lemma after (h : Later d t t') {ms : Millis} (hfits : t'.toNat + ms.toNat < UInt64.size) :
    Later d (t.after ms) (t'.after ms) := by
  have ht : t'.toNat = t.toNat + d := h
  have hlast : last.toNat + 1 = UInt64.size := rfl
  show (t'.after ms).toNat = (t.after ms).toNat + d
  rw [toNat_after, toNat_after]
  omega

end Millis.Later

/-! ### A tick -/

namespace Scheduler

/-- The scheduler with other stamps. -/
def stamped (s : Scheduler) (last lastFrame : Option Millis) : Scheduler :=
  { s with gate := { s.gate with last := last }, lastFrame := lastFrame }

/-- The same scheduler some time later: it has the same stamps, but each `d` later. -/
inductive Later (d : Nat) (s : Scheduler) : Scheduler → Prop where
  | mk {last lastFrame : Option Millis} (hlast : Option.Rel (Millis.Later d) s.gate.last last)
      (hframe : Option.Rel (Millis.Later d) s.lastFrame lastFrame) :
      Later d s (s.stamped last lastFrame)

variable {d : Nat} {s s' : Scheduler} {now now' : Millis}

lemma Later.pending_eq (h : s.Later d s') : s'.pending = s.pending := by
  cases h
  rfl

lemma Later.motion_eq (h : s.Later d s') : s'.motion = s.motion := by
  cases h
  rfl

lemma Later.stage (h : s.Later d s') (a : Action) : (s.stage a).Later d (s'.stage a) := by
  obtain ⟨hlast, hframe⟩ := h
  unfold Scheduler.stage
  split <;> exact ⟨hlast, hframe⟩

lemma Later.clear (h : s.Later d s') : s.clear.Later d s'.clear := by
  obtain ⟨-, hframe⟩ := h
  exact ⟨.none, hframe⟩

lemma Later.effects (h : s.Later d s') (fx : List Effect) :
    (fx.foldl Effect.apply s).Later d (fx.foldl Effect.apply s') :=
  Effect.rel_foldl (R := Later d) (fun a h => h.stage a) Later.clear h fx

/-- The gate opens as much later as its stamp is. -/
lemma Later.isOpen_eq (h : s.Later d s') (hnow : Millis.Later d now now') :
    s'.gate.isOpen now' = s.gate.isOpen now := by
  obtain ⟨hlast, -⟩ := h
  rw [Bool.eq_iff_iff, Gate.isOpen_iff, Gate.isOpen_iff]
  simp only [stamped]
  generalize s.gate.last = last at hlast
  cases hlast with
  | none => simp
  | some hstamp =>
    rename_i t t'
    have ht : t'.toNat = t.toNat + d := hstamp
    have hreading : now'.toNat = now.toNat + d := hnow
    simp only [Option.some.injEq, forall_eq']
    omega

lemma Later.frameDue_eq (h : s.Later d s') (hnow : Millis.Later d now now') :
    s'.frameDue now' = s.frameDue now := by
  obtain ⟨-, hframe⟩ := h
  unfold frameDue stamped
  generalize s.lastFrame = lastFrame at hframe
  cases hframe with
  | none => rfl
  | some hstamp =>
    have hsince := hstamp.since_eq hnow
    simp only [hsince]

/-- Some time later a tick does the same. -/
lemma Tick.later {σ : Type} [Scene σ] {w : σ} {r : Ticked σ} (h : Tick s now w r)
    (hs : s.Later d s') (hnow : Millis.Later d now now')
    (hfits : ∀ ms, (s'.tick now' w).outcome = .executed (.wait ms) →
      now'.toNat + ms.toNat < UInt64.size) :
    ∃ r', Tick s' now' w r' ∧ r'.outcome = r.outcome ∧ r.scheduler.Later d r'.scheduler ∧
      r'.world = r.world := by
  have hopen := hs.isOpen_eq hnow
  have hdue := hs.frameDue_eq hnow
  obtain @⟨last, lastFrame, hlast, hframe⟩ := hs
  cases h with
  | arrive m hm near => exact ⟨_, .arrive m hm near, rfl, ⟨hlast, hframe⟩, rfl⟩
  | block m hm far hit => exact ⟨_, .block m hm far hit, rfl, ⟨hlast, hframe⟩, rfl⟩
  | go m hm far free =>
    refine ⟨_, .go m hm far free, rfl, ?_, ?_⟩
    · refine ⟨hlast, ?_⟩
      rw [hdue]
      split
      · exact .some hnow
      · exact hframe
    · unfold moveTo
      rw [hdue]
      rfl
  | idle hm hq => exact ⟨_, .idle hm hq, rfl, ⟨hlast, hframe⟩, rfl⟩
  | gated hm hq closed =>
    exact ⟨_, .gated hm hq (hopen.trans closed), rfl, ⟨hlast, hframe⟩, rfl⟩
  | drop a queue d hm hq gate ha hit =>
    exact ⟨_, .drop a queue d hm hq (hopen.trans gate) ha hit, rfl, ⟨.some hnow, hframe⟩, rfl⟩
  | start a queue d hm hq gate ha free =>
    exact ⟨_, .start a queue d hm hq (hopen.trans gate) ha free, rfl, ⟨.some hnow, hframe⟩, rfl⟩
  | turn d queue hm hq gate =>
    exact ⟨_, .turn d queue hm hq (hopen.trans gate), rfl, ⟨.some hnow, hframe⟩, rfl⟩
  | print text queue hm hq gate =>
    exact ⟨_, .print text queue hm hq (hopen.trans gate), rfl, ⟨.some hnow, hframe⟩, rfl⟩
  | wait ms queue hm hq gate =>
    -- the one stamp that lies ahead of its reading
    have hwait := Tick.wait (s := s.stamped last lastFrame) (w := w) ms queue hm hq
      (hopen.trans gate)
    have hstamp := hnow.after (hfits ms (congrArg Ticked.outcome hwait.tick_eq))
    exact ⟨_, hwait, rfl, ⟨.some hstamp, hframe⟩, rfl⟩

end Scheduler

/-! ### Runs -/

/-- A tick of the scheduler, which needs a reading. -/
def Input.isTick {σ : Type} : Input σ → Bool
  | .event (.tick _) => true
  | _ => false

/-- A scheduler at work in a world, and the clock that its ticks read. -/
structure Clocked (σ : Type) where
  play : Play σ
  now : Millis

/-- What may happen to a scheduler, its world and its clock. -/
inductive ClockInput (σ : Type) where
  | advance (ms : Millis)
  | set (now : Millis)
  | tick
  | input (i : Input σ) (untimed : i.isTick = false)

namespace ClockInput

/-- The same input some time later: a reading to which the clock is set is later too. -/
inductive Later {σ : Type} (d : Nat) : ClockInput σ → ClockInput σ → Prop where
  | set {now now' : Millis} (hnow : Millis.Later d now now') : Later d (set now) (set now')
  | advance (ms : Millis) : Later d (advance ms) (advance ms)
  | tick : Later d tick tick
  | input (i : Input σ) (untimed : i.isTick = false) : Later d (input i untimed) (input i untimed)

end ClockInput

namespace Clocked

variable {σ : Type} [Scene σ]

def step (c : Clocked σ) : ClockInput σ → Clocked σ
  | .advance ms => { c with now := c.now.after ms }
  | .set now => { c with now := now }
  | .tick => { c with play := c.play.handle (.event (.tick c.now)) }
  | .input i _ => { c with play := c.play.handle i }

def reply? (c : Clocked σ) : ClockInput σ → Option Reply
  | .advance _ | .set _ => none
  | .tick => c.play.reply? (.event (.tick c.now))
  | .input i _ => c.play.reply? i

/-- What each input of a run reports, and how things are after it. -/
def trace : Clocked σ → List (ClockInput σ) → List (Option Reply × Clocked σ)
  | _, [] => []
  | c, i :: is => (c.reply? i, c.step i) :: trace (c.step i) is

/-- The time that an input adds to the reading of the clock: an advance of the clock does, and so
does a wait when it is released. -/
def added? (c : Clocked σ) : ClockInput σ → Option Millis
  | .advance ms => some ms
  | .tick =>
    match (c.play.ticked c.now).outcome with
    | .executed (.wait ms) => some ms
    | _ => none
  | _ => none

/-- The sums of a reading and a time that a run takes, each before it is cut at the last reading. -/
def sums : Clocked σ → List (ClockInput σ) → List Nat
  | _, [] => []
  | c, i :: is => (c.added? i).toList.map (c.now.toNat + ·.toNat) ++ sums (c.step i) is

/-- The same some time later: the clock and the stamps are `d` later, and all else is equal. -/
structure Later (d : Nat) (c c' : Clocked σ) : Prop where
  now : Millis.Later d c.now c'.now
  scheduler : c.play.scheduler.Later d c'.play.scheduler
  world : c'.play.world = c.play.world

variable {d : Nat} {c c' : Clocked σ}

/-- What needs no reading does not depend on the time. -/
lemma Later.handle (h : c.Later d c') {i : Input σ} (hi : i.isTick = false) :
    c'.play.reply? i = c.play.reply? i ∧
      (Clocked.mk (c.play.handle i) c.now).Later d ⟨c'.play.handle i, c'.now⟩ := by
  obtain ⟨⟨s, w⟩, now⟩ := c
  obtain ⟨⟨s', w'⟩, now'⟩ := c'
  obtain ⟨hnow, hs, hworld⟩ := h
  obtain rfl : w' = w := hworld
  cases i with
  | event e =>
    cases e with
    | tick now => cases hi
    | stage a => exact ⟨rfl, hnow, hs.stage a, rfl⟩
    | clear => exact ⟨rfl, hnow, hs.clear, rfl⟩
    | edit f => exact ⟨rfl, hnow, hs, rfl⟩
    | setActionDelay ms =>
      obtain ⟨hlast, hframe⟩ := hs
      exact ⟨rfl, hnow, ⟨hlast, hframe⟩, rfl⟩
    | setMoveSpeed speed =>
      obtain ⟨hlast, hframe⟩ := hs
      exact ⟨rfl, hnow, ⟨hlast, hframe⟩, rfl⟩
  | submit rules line =>
    have hreport : (rules.submit line s' w').report = (rules.submit line s w').report :=
      report_submit rules line s' w' s
    refine ⟨congrArg (fun r => some (Reply.report r)) hreport, ?_⟩
    rw [Play.handle_submit, Play.handle_submit, scheduler_submit, scheduler_submit]
    refine ⟨hnow, hs.effects _, ?_⟩
    rw [world_submit, world_submit, hreport]

/-- A tick reads a clock that is as much later as the stamps are. -/
lemma Later.tick (h : c.Later d c')
    (hfits : ∀ ms, c'.added? .tick = some ms → c'.now.toNat + ms.toNat < UInt64.size) :
    c'.reply? .tick = c.reply? .tick ∧ (c.step .tick).Later d (c'.step .tick) := by
  obtain ⟨⟨s, w⟩, now⟩ := c
  obtain ⟨⟨s', w'⟩, now'⟩ := c'
  obtain ⟨hnow, hs, hworld⟩ := h
  obtain rfl : w' = w := hworld
  have hwait : ∀ ms, (s'.tick now' w').outcome = .executed (.wait ms) →
      now'.toNat + ms.toNat < UInt64.size := fun ms hout =>
    hfits ms (by simp [added?, Play.ticked, hout])
  obtain ⟨r, hr, hout, hsched, hworld⟩ := (s.tick_spec now w').later hs hnow hwait
  have htick : s'.tick now' w' = r := hr.tick_eq
  subst htick
  exact ⟨congrArg (fun o => some (Reply.outcome o)) hout, hnow, hsched, hworld⟩

/-- Some time later a step does the same. -/
lemma Later.step (h : c.Later d c') {i i' : ClockInput σ} (hi : i.Later d i')
    (hfits : ∀ ms, c'.added? i' = some ms → c'.now.toNat + ms.toNat < UInt64.size) :
    c'.reply? i' = c.reply? i ∧ (c.step i).Later d (c'.step i') := by
  cases hi with
  | advance ms => exact ⟨rfl, h.now.after (hfits ms rfl), h.scheduler, h.world⟩
  | set hnow => exact ⟨rfl, hnow, h.scheduler, h.world⟩
  | tick => exact h.tick hfits
  | input i untimed => exact h.handle untimed

/-- **Only differences of readings matter**: let a clock, the stamps of a scheduler and the readings
to which the clock is set be later by the same time, and let no sum of a reading and a time in the
later run go beyond the last reading. Then each input reports the same, leaves the same steps
pending, the same move under way and the same world, walk frame included, and every stamp stays
later by exactly that time. -/
theorem trace_later (h : c.Later d c') {is is' : List (ClockInput σ)}
    (his : List.Forall₂ (ClockInput.Later d) is is') (hfits : ∀ n ∈ c'.sums is', n < UInt64.size) :
    List.Forall₂
      (fun x x' => x'.1 = x.1 ∧ x.2.Later d x'.2 ∧
        x'.2.play.scheduler.pending = x.2.play.scheduler.pending ∧
        x'.2.play.scheduler.motion = x.2.play.scheduler.motion ∧
        x'.2.play.world = x.2.play.world)
      (c.trace is) (c'.trace is') := by
  induction his generalizing c c' with
  | nil => exact .nil
  | cons hi _ ih =>
    rw [sums, List.forall_mem_append] at hfits
    obtain ⟨hfirst, hrest⟩ := hfits
    obtain ⟨hreply, hnext⟩ := h.step hi fun ms hms => hfirst _ (by simp [hms])
    exact .cons ⟨hreply, hnext, hnext.scheduler.pending_eq, hnext.scheduler.motion_eq, hnext.world⟩
      (ih hnext hrest)

/-- The agent in a row of tiles with some stamps: at the reading `3` the walk frame has changed, and
at `5` something was released. -/
def stampedRow (d : Millis) : Clocked World :=
  ⟨⟨{ Scheduler.new rowConfig with
        gate := ⟨3, some (5 + d)⟩, frameDelay := 2, lastFrame := some (3 + d) }, rowWorld⟩, 6 + d⟩

/-- A move, a wait and a message, while the clock is set forward and back. -/
def forthAndBack (d : Millis) : List (ClockInput World) :=
  [.input (.submit rowConfig.rules "move right; wait 4; print \"now\"") rfl, .tick, .advance 2,
    .tick, .tick, .set (7 + d), .tick, .tick, .set (11 + d), .tick, .advance 7, .tick]

/-- The last message of the later run comes at the last reading. -/
theorem trace_later_row :
    let d : Nat := 18446744073709551597
    let c := stampedRow 0
    let c' := stampedRow d.toUInt64
    c.Later d c' ∧
      List.Forall₂ (ClockInput.Later d) (forthAndBack 0) (forthAndBack d.toUInt64) ∧
      (∀ n ∈ c'.sums (forthAndBack d.toUInt64), n < UInt64.size) ∧
      List.Forall₂ (fun x x' => x'.1 = x.1 ∧ x.2.Later d x'.2) (c.trace (forthAndBack 0))
        (c'.trace (forthAndBack d.toUInt64)) ∧
      (c.trace (forthAndBack 0)).filterMap (fun x => x.1.bind Reply.outcome?) =
        [.gated, .executed (.step .right), .moved, .arrived, .gated, .executed (.wait 4),
          .executed (.print "now")] ∧
      ((c'.trace (forthAndBack d.toUInt64)).map fun x => x.2.now).getLast? = some Millis.last := by
  intro d c c'
  have hshift : ∀ t : Fin 12,
      Millis.Later d (t.val.toUInt64 + 0) (t.val.toUInt64 + d.toUInt64) := by decide +kernel
  have hlater : c.Later d c' := ⟨hshift 6, ⟨.some (hshift 5), .some (hshift 3)⟩, rfl⟩
  have his : List.Forall₂ (ClockInput.Later d) (forthAndBack 0) (forthAndBack d.toUInt64) :=
    .cons (.input _ _) <| .cons .tick <| .cons (.advance 2) <| .cons .tick <| .cons .tick <|
      .cons (.set (hshift 7)) <| .cons .tick <| .cons .tick <| .cons (.set (hshift 11)) <|
      .cons .tick <| .cons (.advance 7) <| .cons .tick .nil
  have hfits : ∀ n ∈ c'.sums (forthAndBack d.toUInt64), n < UInt64.size := by decide +kernel
  have htrace := trace_later hlater his hfits
  exact ⟨hlater, his, hfits, htrace.imp fun _ _ h => ⟨h.1, h.2.1⟩, by decide +kernel,
    by decide +kernel⟩

end Clocked

end GridScript
