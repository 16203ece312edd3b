import GridScript.Proofs.Motion.Run
import GridScript.Proofs.Motion.Settings
import GridScript.Proofs.World.Obstacles

/-!
The cadence of the walk.

A tick that takes a move further changes the walk frame too, if more than the frame delay has passed
since the last change, and no other tick changes it. The scheduler remembers its last change for
good: neither a clear nor the end of a move makes it forget, and the clock may be set back. So with
ticks at equal distances, which divide the delay, a change falls one tick later than the delay.
-/

namespace GridScript

lemma Agent.frame_stepFrame_ne (a : Agent) : a.stepFrame.frame ≠ a.frame := by
  unfold stepFrame
  split
  · rename_i hlast
    intro (h : 1 = a.frame)
    rw [← h] at hlast
    exact absurd hlast (by decide)
  · simp

namespace Scheduler

lemma frameDue_iff {s : Scheduler} {now : Millis} :
    s.frameDue now = true ↔
      ∀ last, s.lastFrame = some last → last.toNat + s.frameDelay.toNat < now.toNat := by
  unfold frameDue
  cases s.lastFrame with
  | none => simp
  | some last =>
    simp only [decide_eq_true_eq, UInt64.lt_iff_toNat_lt, Millis.toNat_since, Option.some.injEq,
      forall_eq']
    omega

/-- The walk frame after a tick, and the stamp of its last change. -/
lemma frame_tick (s : Scheduler) (now : Millis) (w : World) :
    let r := s.tick now w
    let due := r.outcome = .moved ∧ s.frameDue now = true
    (due → r.world.agent.frame = w.agent.stepFrame.frame ∧ r.scheduler.lastFrame = some now) ∧
      (¬due → r.world.agent.frame = w.agent.frame ∧ r.scheduler.lastFrame = s.lastFrame) := by
  have hstep := s.tick_spec now w
  generalize s.tick now w = r at hstep
  cases hstep with
  | go =>
    unfold moveTo
    refine ⟨fun ⟨_, hdue⟩ => ?_, fun hno => ?_⟩
    · rw [if_pos hdue, if_pos hdue]
      exact ⟨rfl, rfl⟩
    · have hdue : ¬s.frameDue now = true := fun hdue => hno ⟨rfl, hdue⟩
      rw [if_neg hdue, if_neg hdue]
      exact ⟨rfl, rfl⟩
  | arrive | block | idle | gated | drop | start | turn | wait | print =>
    exact ⟨fun h => (nomatch h.1), fun _ => ⟨rfl, rfl⟩⟩

end Scheduler

namespace Play

/-- A tick changes the walk frame. -/
def ChangesFrame (p : Play World) (now : Millis) : Prop :=
  (p.step (.tick now)).world.agent.frame ≠ p.world.agent.frame

instance (p : Play World) : DecidablePred p.ChangesFrame :=
  fun _ => inferInstanceAs (Decidable (_ ≠ _))

/-- The reading of an event at which the scheduler changes the walk frame. -/
def frameChange? (p : Play World) : Event World → Option Millis
  | .tick now => if p.ChangesFrame now then some now else none
  | _ => none

/-- The readings at which the scheduler changes the walk frame in a run. -/
def frameChanges : Play World → List (Event World) → List Millis
  | _, [] => []
  | p, e :: es => (p.frameChange? e).toList ++ frameChanges (p.step e) es

lemma changesFrame_iff {p : Play World} {now : Millis} :
    p.ChangesFrame now ↔ (p.ticked now).outcome = .moved ∧ p.scheduler.frameDue now = true := by
  obtain ⟨hdue, hno⟩ := p.scheduler.frame_tick now p.world
  refine ⟨fun h => by_contra fun hnot => h (hno hnot).1, fun h => ?_⟩
  exact fun heq => p.world.agent.frame_stepFrame_ne ((hdue h).1.symm.trans heq)

lemma lastFrame_step (p : Play World) (e : Event World) :
    (p.step e).scheduler.lastFrame = (p.frameChange? e).or p.scheduler.lastFrame := by
  cases e with
  | tick now =>
    obtain ⟨hdue, hno⟩ := p.scheduler.frame_tick now p.world
    by_cases h : p.ChangesFrame now
    · rw [frameChange?, if_pos h]
      exact (hdue (changesFrame_iff.1 h)).2
    · rw [frameChange?, if_neg h]
      exact (hno (mt changesFrame_iff.2 h)).2
  | stage a => exact congrArg (·.lastFrame) (p.scheduler.stage_eq a)
  | clear | setActionDelay | setMoveSpeed | edit => rfl

/-- The scheduler remembers the last change, and nothing makes it forget. -/
lemma lastFrame_run (p : Play World) (es : List (Event World)) :
    (p.run es).scheduler.lastFrame = (p.frameChanges es).getLast?.or p.scheduler.lastFrame := by
  induction es generalizing p with
  | nil => rfl
  | cons e es ih =>
    rw [run_cons, ih, lastFrame_step, frameChanges, List.getLast?_append, Option.or_assoc]
    cases p.frameChange? e <;> rfl

lemma frameDelay_run (p : Play World) (es : List (Event World)) :
    (p.run es).scheduler.frameDelay = p.scheduler.frameDelay := by
  refine run_inv (P := fun q => q.scheduler.frameDelay = p.scheduler.frameDelay)
    (fun q e hq => ?_) rfl es
  cases e with
  | tick now => exact (congrArg Config.frameDelay (q.scheduler.settings_tick now q.world)).trans hq
  | stage a => exact (congrArg (·.frameDelay) (q.scheduler.stage_eq a)).trans hq
  | clear | setActionDelay | setMoveSpeed | edit => exact hq

/-! ### Ticks at equal distances -/

/-- The reading of the `i`-th tick. -/
def reading (t d i : Nat) : Millis := .ofNat (t + i * d)

def steady (t d n : Nat) : List (Event World) := (List.range n).map fun i => .tick (reading t d i)

lemma run_steady_succ (p : Play World) (t d n : Nat) :
    p.run (steady t d (n + 1)) = (p.run (steady t d n)).step (.tick (reading t d n)) := by
  rw [steady, List.range_succ, List.map_append, run_append]
  rfl

lemma toNat_reading {t d n i : Nat} (h : t + n * d < UInt64.size) (hi : i ≤ n) :
    (reading t d i).toNat = t + i * d := by
  have hle : i * d ≤ n * d := Nat.mul_le_mul_right d hi
  exact UInt64.toNat_ofNat_of_lt' (by omega)

/-- The next multiple after `j` is one more than `k` away. -/
lemma dvd_succ_iff {i j k : Nat} (hj : k + 1 ∣ j) (hle : j ≤ i) (hge : i ≤ j + k) :
    k + 1 ∣ i + 1 ↔ i = j + k := by
  obtain ⟨m, rfl⟩ := Nat.exists_eq_add_of_le hle
  rw [Nat.add_assoc, Nat.dvd_add_right hj]
  constructor
  · intro h
    have hk := Nat.le_of_dvd (Nat.succ_pos m) h
    omega
  · intro h
    obtain rfl : m = k := Nat.add_left_cancel h
    exact Nat.dvd_refl _

/-- In an uninterrupted move that begins with a change, the changes are as far apart as the delay
and one tick. -/
lemma changesFrame_steady {p : Play World} {t d k n : Nat} (hd : 0 < d)
    (hdelay : p.scheduler.frameDelay.toNat = k * d) (hn : t + n * d < UInt64.size)
    (hmoved : ∀ i ≤ n, ((p.run (steady t d i)).ticked (reading t d i)).outcome = .moved)
    (hfirst : p.ChangesFrame (reading t d 0)) {i : Nat} (hi : i ≤ n) :
    ((p.run (steady t d i)).ChangesFrame (reading t d i) ↔ k + 1 ∣ i) ∧
      ∃ j, (p.run (steady t d (i + 1))).scheduler.lastFrame = some (reading t d j) ∧
        k + 1 ∣ j ∧ j ≤ i ∧ i ≤ j + k := by
  -- the last change is never more than the delay ago
  induction i with
  | zero =>
    have hchange : (p.run (steady t d 0)).ChangesFrame (reading t d 0) := hfirst
    refine ⟨iff_of_true hchange (Nat.dvd_zero _), 0, ?_, Nat.dvd_zero _, le_rfl, Nat.zero_le _⟩
    rw [run_steady_succ, lastFrame_step, frameChange?, if_pos hchange]
    rfl
  | succ i ih =>
    obtain ⟨-, j, hlast, hj, hle, hge⟩ := ih (by omega)
    have hchange : (p.run (steady t d (i + 1))).ChangesFrame (reading t d (i + 1)) ↔
        i = j + k := by
      rw [changesFrame_iff, and_iff_right (hmoved _ hi), Scheduler.frameDue_iff, hlast,
        frameDelay_run, hdelay, toNat_reading hn hi]
      simp only [Option.some.injEq, forall_eq', toNat_reading hn (show j ≤ n by omega)]
      rw [Nat.add_assoc, Nat.add_lt_add_iff_left, ← Nat.add_mul, Nat.mul_lt_mul_right hd]
      omega
    have hdvd := dvd_succ_iff hj hle hge
    refine ⟨hchange.trans hdvd.symm, ?_⟩
    rw [run_steady_succ, lastFrame_step, frameChange?]
    by_cases h : i = j + k
    · rw [if_pos (hchange.2 h)]
      exact ⟨i + 1, rfl, hdvd.2 h, le_rfl, by omega⟩
    · rw [if_neg (mt hchange.1 h)]
      exact ⟨j, hlast, hj, by omega, by omega⟩

/-- **The cadence of the walk.** A tick changes the walk frame, namely to the next one, if and only
if it takes a move further and the last change is longer ago than the frame delay, or there was none
since the scheduler was made. In an uninterrupted move that begins with a change, with ticks at
equal distances that divide the frame delay, the changes are as far apart as the delay and one tick.
-/
theorem changesFrame_iff_delay_passed (c : Config) (w : World) (es : List (Event World)) :
    let p := (start c w).run es
    (∀ now,
      (p.ChangesFrame now ↔ (p.ticked now).outcome = .moved ∧
        ∀ last, ((start c w).frameChanges es).getLast? = some last →
          last.toNat + c.frameDelay.toNat < now.toNat) ∧
      (p.ChangesFrame now →
        (p.step (.tick now)).world.agent.frame = p.world.agent.stepFrame.frame)) ∧
    ∀ t d k n, 0 < d → c.frameDelay.toNat = k * d → t + n * d < UInt64.size →
      (∀ i ≤ n, ((p.run (steady t d i)).ticked (reading t d i)).outcome = .moved) →
      p.ChangesFrame (reading t d 0) →
      ∀ i ≤ n, (p.run (steady t d i)).ChangesFrame (reading t d i) ↔ k + 1 ∣ i := by
  intro p
  have hdelay : p.scheduler.frameDelay = c.frameDelay := frameDelay_run _ es
  have hlast : p.scheduler.lastFrame = ((start c w).frameChanges es).getLast? :=
    (lastFrame_run _ es).trans (Option.or_none)
  refine ⟨fun now => ⟨?_, fun h => ?_⟩, fun t d k n hd hk hn hmoved hfirst i hi => ?_⟩
  · rw [changesFrame_iff, Scheduler.frameDue_iff, hlast, hdelay]
  · exact ((p.scheduler.frame_tick now p.world).1 (changesFrame_iff.1 h)).1
  · exact (changesFrame_steady hd (hdelay ▸ hk) hn hmoved hfirst hi).1

/-- The agent on a field, under the settings that there are unless others are given. -/
def plainWorld : World := World.new (TileMap.ofSize 4 3 64) ⟨64, 64⟩ {}

/-- The delay has passed when the last tick takes the move further, and yet the frame stays. -/
theorem frame_kept_at_delay :
    let es : List (Event World) := [.stage (.step .right), .tick 0, .tick 0]
    let p := (start {} plainWorld).run es
    (start {} plainWorld).frameChanges es = [0] ∧ (p.ticked 100).outcome = .moved ∧
      0 + ({} : Config).frameDelay ≤ 100 ∧ ¬p.ChangesFrame 100 := by
  decide +kernel

/-- Tiles of eight pixels, one pixel a tick, and two milliseconds between two frames. -/
def strollConfig : Config := { tileSize := 8, moveSpeed := 1, frameDelay := 2 }

def strollWorld : World := World.new (TileMap.ofSize 3 1 8) ⟨0, 0⟩ strollConfig

/-- With a tick each millisecond, the frame changes every three milliseconds. -/
theorem changesFrame_iff_delay_passed_stroll :
    let es : List (Event World) := [.stage (.step .right), .tick 0]
    let p := (start strollConfig strollWorld).run es
    p.ChangesFrame 1 ∧ ((p.run (steady 1 1 3)).step (.tick 4)).world.agent.frame = 3 ∧
      ∀ i ≤ 6, (p.run (steady 1 1 i)).ChangesFrame (reading 1 1 i) ↔ 3 ∣ i := by
  intro es p
  have hfirst : p.ChangesFrame 1 := by decide +kernel
  have hmoved : ∀ i ≤ 6, ((p.run (steady 1 1 i)).ticked (reading 1 1 i)).outcome = .moved := by
    decide +kernel
  refine ⟨hfirst, by decide +kernel, ?_⟩
  exact (changesFrame_iff_delay_passed strollConfig strollWorld es).2 1 1 2 6 Nat.one_pos rfl
    (by decide) hmoved hfirst

end Play

end GridScript
