import GridScript.Motion.Scheduler
import Mathlib.Tactic.Common

/-!
What one tick can do, said once.

`Tick s now w r` lists the ten ways in which a tick ends; `tick_spec` says that `Scheduler.tick` is
one of them. A released action gives up its first step, and `Action.rest` stays in the queue.
-/

namespace GridScript

namespace Action

/-- What stays of an action when its first step is released. -/
def rest : Action → List Action
  | .walk d count => if 1 < count then [.walk d (count - 1)] else []
  | _ => []

lemma steps_eq {a : Action} (h : 0 < a.stepCount) : a.steps = a.single :: unroll a.rest := by
  cases a with
  | walk d count =>
    simp only [stepCount] at h
    by_cases h1 : 1 < count
    · have hsub : (count - 1).toNat = count.toNat - 1 :=
        UInt32.toNat_sub_of_le _ _ (UInt32.le_of_lt h1)
      have hcount : count.toNat = (count - 1).toNat + 1 := by omega
      simp [steps, stepCount, single, rest, unroll, h1, hcount, List.replicate_succ]
    · have hle : count.toNat ≤ 1 := Nat.le_of_not_lt fun hlt => h1 (UInt32.lt_iff_toNat_lt.2 hlt)
      have hcount : count.toNat = 1 := by omega
      simp [steps, stepCount, single, rest, unroll, h1, hcount]
  | _ => rfl

lemma pos_of_mem_rest {a b : Action} (hb : b ∈ a.rest) : 0 < b.stepCount := by
  cases a with
  | walk d count =>
    simp only [rest] at hb
    split at hb
    · rename_i h1
      rw [List.mem_singleton] at hb
      subst hb
      have hsub : (count - 1).toNat = count.toNat - 1 :=
        UInt32.toNat_sub_of_le _ _ (UInt32.le_of_lt h1)
      have h1' : 1 < count.toNat := UInt32.lt_iff_toNat_lt.1 h1
      simp only [stepCount]
      omega
    · simp at hb
  | _ => simp [rest] at hb

lemma unroll_append (as bs : List Action) : unroll (as ++ bs) = unroll as ++ unroll bs := by
  simp [unroll]

end Action

namespace Scheduler

/-- The scheduler when the first step of `a` has left a queue `a :: queue`. -/
def dequeue (s : Scheduler) (a : Action) (queue : List Action) (now : Millis) : Scheduler :=
  { s with queue := a.rest ++ queue, executing := true, gate := { s.gate with last := some now } }

variable {σ : Type} [Scene σ]

/-- Where a step in some direction leads. -/
def goal (s : Scheduler) (d : Direction) (w : σ) : Position :=
  (Scene.position w).offset (d.delta.1 * s.stride) (d.delta.2 * s.stride)

/-- The way that is left to a target, from left to right. -/
def wayX (m : Motion) (w : σ) : Int := wrap (m.target.x - (Scene.position w).x)

/-- The way that is left to a target, downwards. -/
def wayY (m : Motion) (w : σ) : Int := wrap (m.target.y - (Scene.position w).y)

/-- The pixels that a move has still to cover, by its own account: none if it finds a negative
number. -/
def distance (m : Motion) (w : σ) : Nat :=
  (wrap ((wayX m w).natAbs + (wayY m w).natAbs)).toNat

/-- Where a move gets to in one tick if it does not arrive. -/
def ahead (s : Scheduler) (m : Motion) (w : σ) : Position :=
  (Scene.position w).offset (advance s.pace (wayX m w)) (advance s.pace (wayY m w))

/-- The world in which a move has got to `p`, with a new frame if that is due. -/
def moveTo (s : Scheduler) (p : Position) (now : Millis) (w : σ) : σ :=
  if s.frameDue now then Scene.stepFrame (Scene.place w p) else Scene.place w p

/-- The ways in which a tick can end. -/
inductive Tick (s : Scheduler) (now : Millis) (w : σ) : Ticked σ → Prop where
  | arrive (m : Motion) (hm : s.motion = some m) (near : distance m w ≤ s.pace) :
      Tick s now w ⟨.arrived, { s with motion := none }, Scene.place w m.target⟩
  | block (m : Motion) (hm : s.motion = some m) (far : s.pace < distance m w)
      (hit : Scene.blockedAt w (s.ahead m w) = true) :
      Tick s now w ⟨.blocked, { s with motion := none }, w⟩
  | go (m : Motion) (hm : s.motion = some m) (far : s.pace < distance m w)
      (free : Scene.blockedAt w (s.ahead m w) = false) :
      Tick s now w
        ⟨.moved, { s with lastFrame := if s.frameDue now then some now else s.lastFrame },
          s.moveTo (s.ahead m w) now w⟩
  | idle (hm : s.motion = none) (hq : s.queue = []) :
      Tick s now w ⟨.idle, { s with executing := false }, w⟩
  | gated (hm : s.motion = none) (hq : s.queue ≠ []) (closed : s.gate.isOpen now = false) :
      Tick s now w ⟨.gated, s, w⟩
  | drop (a : Action) (queue : List Action) (d : Direction) (hm : s.motion = none)
      (hq : s.queue = a :: queue) (gate : s.gate.isOpen now = true) (ha : a.single = .step d)
      (hit : Scene.blockedAt (Scene.face w d) (s.goal d (Scene.face w d)) = true) :
      Tick s now w ⟨.discarded d, s.dequeue a queue now, Scene.face w d⟩
  | start (a : Action) (queue : List Action) (d : Direction) (hm : s.motion = none)
      (hq : s.queue = a :: queue) (gate : s.gate.isOpen now = true) (ha : a.single = .step d)
      (free : Scene.blockedAt (Scene.face w d) (s.goal d (Scene.face w d)) = false) :
      Tick s now w ⟨.executed (.step d),
        { s.dequeue a queue now with
          motion := some ⟨Scene.position (Scene.face w d), s.goal d (Scene.face w d)⟩ },
        Scene.face w d⟩
  | turn (d : Direction) (queue : List Action) (hm : s.motion = none)
      (hq : s.queue = .turn d :: queue) (gate : s.gate.isOpen now = true) :
      Tick s now w ⟨.executed (.turn d), s.dequeue (.turn d) queue now, Scene.face w d⟩
  | wait (ms : Millis) (queue : List Action) (hm : s.motion = none)
      (hq : s.queue = .wait ms :: queue) (gate : s.gate.isOpen now = true) :
      Tick s now w ⟨.executed (.wait ms), s.dequeue (.wait ms) queue (now.after ms), w⟩
  | print (text : String) (queue : List Action) (hm : s.motion = none)
      (hq : s.queue = .print text :: queue) (gate : s.gate.isOpen now = true) :
      Tick s now w ⟨.executed (.print text), s.dequeue (.print text) queue now,
        Scene.announce w text⟩

lemma tick_motion {s : Scheduler} {m : Motion} (hm : s.motion = some m) (now : Millis) (w : σ) :
    s.tick now w = s.advanceMotion m now w := by
  simp [tick, hm]

lemma tick_empty {s : Scheduler} (hm : s.motion = none) (hq : s.queue = []) (now : Millis) (w : σ) :
    s.tick now w = ⟨.idle, { s with executing := false }, w⟩ := by
  simp [tick, hm, hq]

lemma tick_cons {s : Scheduler} {a : Action} {queue : List Action} (hm : s.motion = none)
    (hq : s.queue = a :: queue) (now : Millis) (w : σ) :
    s.tick now w =
      if s.gate.isOpen now then
        let t :=
          { s with queue := queue, executing := true, gate := { s.gate with last := some now } }
        t.release a now w
      else ⟨.gated, s, w⟩ := by
  simp [tick, hm, hq]

section Motion

variable {s : Scheduler} {m : Motion} {w : σ}

/-- A move arrives if its pace covers the distance, and else stops if something is ahead. -/
lemma advanceMotion_eq (s : Scheduler) (m : Motion) (now : Millis) (w : σ) :
    s.advanceMotion m now w =
      if distance m w ≤ s.pace then ⟨.arrived, { s with motion := none }, Scene.place w m.target⟩
      else if Scene.blockedAt w (s.ahead m w) then ⟨.blocked, { s with motion := none }, w⟩
      else ⟨.moved, { s with lastFrame := if s.frameDue now then some now else s.lastFrame },
        s.moveTo (s.ahead m w) now w⟩ := by
  simp only [advanceMotion, distance, wayX, wayY, ahead, moveTo, Int.toNat_le]
  cases s.frameDue now <;> simp only [Bool.false_eq_true, if_false, if_true]

lemma advanceMotion_near (near : distance m w ≤ s.pace) (now : Millis) :
    s.advanceMotion m now w = ⟨.arrived, { s with motion := none }, Scene.place w m.target⟩ := by
  rw [advanceMotion_eq, if_pos near]

lemma advanceMotion_hit (far : s.pace < distance m w)
    (hit : Scene.blockedAt w (s.ahead m w) = true) (now : Millis) :
    s.advanceMotion m now w = ⟨.blocked, { s with motion := none }, w⟩ := by
  rw [advanceMotion_eq, if_neg (Nat.not_le_of_lt far), if_pos hit]

lemma advanceMotion_free (far : s.pace < distance m w)
    (free : Scene.blockedAt w (s.ahead m w) = false) (now : Millis) :
    s.advanceMotion m now w =
      ⟨.moved, { s with lastFrame := if s.frameDue now then some now else s.lastFrame },
        s.moveTo (s.ahead m w) now w⟩ := by
  rw [advanceMotion_eq, if_neg (Nat.not_le_of_lt far), if_neg (Bool.eq_false_iff.1 free)]

/-- A move that is under way arrives, runs into something or goes on. -/
lemma advanceMotion_spec (hm : s.motion = some m) (now : Millis) (w : σ) :
    Tick s now w (s.advanceMotion m now w) := by
  rcases Nat.lt_or_ge s.pace (distance m w) with far | near
  · cases hit : Scene.blockedAt w (s.ahead m w) with
    | true =>
      rw [advanceMotion_hit far hit]
      exact .block m hm far hit
    | false =>
      rw [advanceMotion_free far hit]
      exact .go m hm far hit
  · rw [advanceMotion_near near]
    exact .arrive m hm near

end Motion

section Release

variable {s : Scheduler} {a : Action} {queue : List Action} {d : Direction} {w : σ}

lemma startStep_hit (hit : Scene.blockedAt (Scene.face w d) (s.goal d (Scene.face w d)) = true) :
    s.startStep d w = ⟨.discarded d, s, Scene.face w d⟩ :=
  if_pos hit

lemma startStep_free (free : Scene.blockedAt (Scene.face w d) (s.goal d (Scene.face w d)) = false) :
    s.startStep d w = ⟨.executed (.step d),
      { s with motion := some ⟨Scene.position (Scene.face w d), s.goal d (Scene.face w d)⟩ },
      Scene.face w d⟩ :=
  if_neg (Bool.eq_false_iff.1 free)

/-- The rest of an action goes back into the queue before its step sets out. -/
lemma tick_step (hm : s.motion = none) (hq : s.queue = a :: queue) {now : Millis}
    (gate : s.gate.isOpen now = true) (ha : a.single = .step d) (w : σ) :
    s.tick now w = (s.dequeue a queue now).startStep d w := by
  rw [tick_cons hm hq, if_pos gate]
  cases a with
  | step e =>
    obtain rfl : e = d := Action.step.inj ha
    rfl
  | walk e count =>
    obtain rfl : e = d := Action.step.inj ha
    simp only [release, dequeue, Action.rest]
    split <;> rfl
  | turn | wait | print => cases ha

/-- A step sets out for its goal or is dropped. -/
lemma startStep_spec {now : Millis} (hm : s.motion = none) (hq : s.queue = a :: queue)
    (gate : s.gate.isOpen now = true) (ha : a.single = .step d) (w : σ) :
    Tick s now w ((s.dequeue a queue now).startStep d w) := by
  cases hit : Scene.blockedAt (Scene.face w d) (s.goal d (Scene.face w d)) with
  | true =>
    rw [startStep_hit (s := s.dequeue a queue now) hit]
    exact .drop a queue d hm hq gate ha hit
  | false =>
    rw [startStep_free (s := s.dequeue a queue now) hit]
    exact .start a queue d hm hq gate ha hit

end Release

/-- A tick ends in one of the ten ways. -/
theorem tick_spec (s : Scheduler) (now : Millis) (w : σ) : Tick s now w (s.tick now w) := by
  rcases hm : s.motion with _ | m
  · rcases hq : s.queue with _ | ⟨a, queue⟩
    · rw [tick_empty hm hq]
      exact .idle hm hq
    · cases gate : s.gate.isOpen now with
      | false =>
        rw [tick_cons hm hq, if_neg (Bool.eq_false_iff.1 gate)]
        exact .gated hm (by simp [hq]) gate
      | true =>
        cases a with
        | step d =>
          rw [tick_step hm hq gate rfl]
          exact startStep_spec hm hq gate rfl w
        | walk d count =>
          rw [tick_step hm hq gate rfl]
          exact startStep_spec hm hq gate rfl w
        | turn d =>
          rw [tick_cons hm hq, if_pos gate]
          exact .turn d queue hm hq gate
        | wait ms =>
          rw [tick_cons hm hq, if_pos gate]
          exact .wait ms queue hm hq gate
        | print text =>
          rw [tick_cons hm hq, if_pos gate]
          exact .print text queue hm hq gate
  · rw [tick_motion hm]
    exact advanceMotion_spec hm now w

/-- A tick ends in no other way than it does. -/
lemma Tick.tick_eq {s : Scheduler} {now : Millis} {w : σ} {r : Ticked σ} (h : Tick s now w r) :
    s.tick now w = r := by
  cases h with
  | arrive m hm near => rw [tick_motion hm, advanceMotion_near near]
  | block m hm far hit => rw [tick_motion hm, advanceMotion_hit far hit]
  | go m hm far free => rw [tick_motion hm, advanceMotion_free far free]
  | idle hm hq => exact tick_empty hm hq now w
  | gated hm hq closed =>
    obtain ⟨a, queue, hq⟩ := List.exists_cons_of_ne_nil hq
    rw [tick_cons hm hq, if_neg (Bool.eq_false_iff.1 closed)]
  | drop a queue d hm hq gate ha hit =>
    rw [tick_step hm hq gate ha]
    exact startStep_hit hit
  | start a queue d hm hq gate ha free =>
    rw [tick_step hm hq gate ha]
    exact startStep_free free
  | turn d queue hm hq gate => rw [tick_cons hm hq, if_pos gate]; rfl
  | wait ms queue hm hq gate => rw [tick_cons hm hq, if_pos gate]; rfl
  | print text queue hm hq gate => rw [tick_cons hm hq, if_pos gate]; rfl

end Scheduler

end GridScript
