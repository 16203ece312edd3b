import GridScript.Proofs.Motion.Run

/-!
The queue is first in, first out, and no step is lost or released twice.

Since the last clear, the steps that ticks have released and the steps that still wait are, in this
order, the steps of the staged actions. The invariant is that no action in the queue is without
steps: a walk of no steps is dropped when it is staged, and what goes back in front of the queue is
not empty.
-/

namespace GridScript

/-- The single step that a tick has released. A step that is dropped counts as released. -/
def Outcome.released? : Outcome → Option Action
  | .executed a => some a
  | .discarded d => some (.step d)
  | _ => none

namespace Event

variable {σ : Type}

def isClear : Event σ → Bool
  | .clear => true
  | _ => false

/-- The action that an event stages. -/
def staged? : Event σ → Option Action
  | .stage a => some a
  | _ => none

end Event

namespace Play

variable {σ : Type}

/-- What a transcript holds after its last clear, all of it if there is none. -/
def sinceClear (t : List (Event σ × Option Outcome)) : List (Event σ × Option Outcome) :=
  t.rtakeWhile fun x => !x.1.isClear

lemma sinceClear_concat (t : List (Event σ × Option Outcome)) {e : Event σ}
    (he : e.isClear = false) (o : Option Outcome) :
    sinceClear (t ++ [(e, o)]) = sinceClear t ++ [(e, o)] :=
  List.rtakeWhile_concat_pos _ _ _ (by simp [he])

lemma sinceClear_concat_clear (t : List (Event σ × Option Outcome)) (o : Option Outcome) :
    sinceClear (t ++ [(.clear, o)]) = [] :=
  List.rtakeWhile_concat_neg _ _ _ (by simp [Event.isClear])

/-- The actions that are staged in a transcript. -/
def staged (t : List (Event σ × Option Outcome)) : List Action := t.filterMap fun x => x.1.staged?

/-- The single steps that are released in a transcript. -/
def released (t : List (Event σ × Option Outcome)) : List Action :=
  t.filterMap fun x => x.2.bind Outcome.released?

end Play

namespace Scheduler

/-- Every action in the queue has a step. -/
def Stepping (s : Scheduler) : Prop := ∀ a ∈ s.queue, 0 < a.stepCount

lemma stepping_new (c : Config) : (Scheduler.new c).Stepping := by
  intro a ha
  cases ha

lemma Stepping.clear (s : Scheduler) : s.clear.Stepping := by
  intro a ha
  cases ha

lemma Stepping.stage {s : Scheduler} (h : s.Stepping) (a : Action) : (s.stage a).Stepping := by
  unfold Scheduler.stage
  split
  · exact h
  · rename_i ha
    intro b hb
    rcases List.mem_append.1 hb with hb | hb
    · exact h b hb
    · rw [List.mem_singleton.1 hb]
      exact Nat.pos_of_ne_zero ha

lemma Stepping.dequeue {s : Scheduler} {a : Action} {queue : List Action} (h : s.Stepping)
    (hq : s.queue = a :: queue) (now : Millis) : (s.dequeue a queue now).Stepping := by
  intro b hb
  rcases List.mem_append.1 hb with hb | hb
  · exact Action.pos_of_mem_rest hb
  · exact h b (hq ▸ List.mem_cons_of_mem a hb)

/-- Taking the first step off the queue takes it off the steps that wait. -/
lemma pending_dequeue {s : Scheduler} {a : Action} {queue : List Action} (h : s.Stepping)
    (hq : s.queue = a :: queue) (now : Millis) :
    s.pending = a.single :: (s.dequeue a queue now).pending := by
  have ha : 0 < a.stepCount := h a (hq ▸ List.mem_cons_self)
  calc s.pending = Action.unroll (a :: queue) := by rw [pending, hq]
    _ = a.steps ++ Action.unroll queue := by simp [Action.unroll]
    _ = a.single :: Action.unroll (a.rest ++ queue) := by
        rw [Action.steps_eq ha, Action.unroll_append, List.cons_append]

variable {σ : Type} [Scene σ]

lemma Stepping.tick {s : Scheduler} (h : s.Stepping) (now : Millis) (w : σ) :
    (s.tick now w).scheduler.Stepping := by
  have hstep := s.tick_spec now w
  generalize s.tick now w = r at hstep
  cases hstep with
  | arrive | block | go | idle | gated => exact h
  | drop a queue d hm hq => exact h.dequeue hq now
  | start a queue d hm hq => exact h.dequeue hq now
  | turn d queue hm hq => exact h.dequeue hq now
  | wait ms queue hm hq => exact h.dequeue hq _
  | print text queue hm hq => exact h.dequeue hq now

/-- A tick takes the step it releases off the front of what waits, and nothing else. -/
lemma pending_tick {s : Scheduler} (h : s.Stepping) (now : Millis) (w : σ) :
    s.pending = (s.tick now w).outcome.released?.toList ++ (s.tick now w).scheduler.pending := by
  have hstep := s.tick_spec now w
  generalize s.tick now w = r at hstep
  cases hstep with
  | arrive | block | go | idle | gated => rfl
  | drop a queue d hm hq gate ha => rw [pending_dequeue h hq now, ha]; rfl
  | start a queue d hm hq gate ha => rw [pending_dequeue h hq now, ha]; rfl
  | turn d queue hm hq => rw [pending_dequeue h hq now]; rfl
  | wait ms queue hm hq => rw [pending_dequeue h hq (now.after ms)]; rfl
  | print text queue hm hq => rw [pending_dequeue h hq now]; rfl

end Scheduler

namespace Play

variable {σ : Type} [Scene σ]

lemma stepping_step {p : Play σ} (h : p.scheduler.Stepping) (e : Event σ) :
    (p.step e).scheduler.Stepping := by
  cases e with
  | stage a => exact h.stage a
  | tick now => exact h.tick now p.world
  | clear => exact Scheduler.Stepping.clear p.scheduler
  | setActionDelay | setMoveSpeed | edit => exact h

lemma stepping_run {p : Play σ} (h : p.scheduler.Stepping) (es : List (Event σ)) :
    (p.run es).scheduler.Stepping :=
  run_inv (P := fun p => p.scheduler.Stepping) (fun _ e hp => stepping_step hp e) h es

/-- An event that does not clear moves steps from what waits to what is released, and adds the steps
it stages at the end. -/
lemma pending_step {p : Play σ} (h : p.scheduler.Stepping) {e : Event σ} (he : e.isClear = false) :
    ((p.outcome? e).bind Outcome.released?).toList ++ (p.step e).scheduler.pending =
      p.scheduler.pending ++ Action.unroll e.staged?.toList := by
  cases e with
  | stage a =>
    show [] ++ (p.scheduler.stage a).pending = p.scheduler.pending ++ Action.unroll [a]
    rw [List.nil_append, Scheduler.pending_stage]
    simp [Action.unroll]
  | tick now =>
    have ht := Scheduler.pending_tick h now p.world
    simpa [outcome?, step, ticked, Event.staged?, Action.unroll] using ht.symm
  | clear => cases he
  | setActionDelay | setMoveSpeed | edit =>
    simp [outcome?, step, Event.staged?, Action.unroll]

/-- What was released since the last clear and what waits is what was staged since then. -/
lemma released_append_pending {p : Play σ} (h : p.scheduler.Stepping)
    (h0 : p.scheduler.pending = []) (es : List (Event σ)) :
    released (sinceClear (p.transcript es)) ++ (p.run es).scheduler.pending =
      Action.unroll (staged (sinceClear (p.transcript es))) := by
  induction es using List.reverseRecOn with
  | nil => simpa [released, staged, sinceClear, Action.unroll] using h0
  | append_singleton es e ih =>
    have hrun := stepping_run h es
    rw [transcript_append, run_append]
    cases he : e.isClear with
    | true =>
      -- a clear forgets what was staged and empties the queue
      cases e with
      | clear =>
        rw [transcript_cons, transcript_nil, sinceClear_concat_clear, run_cons, run_nil]
        rfl
      | _ => cases he
    | false =>
      have hstep := pending_step hrun he
      have hs : sinceClear (p.transcript es ++ (p.run es).transcript [e]) =
          sinceClear (p.transcript es) ++ [(e, (p.run es).outcome? e)] :=
        sinceClear_concat _ he _
      rw [hs, run_cons, run_nil]
      calc released (sinceClear (p.transcript es) ++ [(e, (p.run es).outcome? e)]) ++
            ((p.run es).step e).scheduler.pending
          = released (sinceClear (p.transcript es)) ++
              ((((p.run es).outcome? e).bind Outcome.released?).toList ++
                ((p.run es).step e).scheduler.pending) := by
            simp [released, List.filterMap_cons, ← List.append_assoc]
            cases ((p.run es).outcome? e).bind Outcome.released? <;> simp
        _ = Action.unroll (staged (sinceClear (p.transcript es))) ++
              Action.unroll e.staged?.toList := by rw [hstep, ← List.append_assoc, ih]
        _ = Action.unroll
              (staged (sinceClear (p.transcript es) ++ [(e, (p.run es).outcome? e)])) := by
            rw [← Action.unroll_append]
            simp [staged, List.filterMap_cons]
            cases e.staged? <;> simp

/-- **First in, first out**: in every state of a run from a new scheduler, the steps released since
the last clear, followed by those that wait, are the steps of the actions staged since then. A tick
in any world takes the step it releases off the front of what waits; any other tick leaves that as
it is. -/
theorem fifo (c : Config) (w : σ) (es : List (Event σ)) :
    let t := sinceClear ((start c w).transcript es)
    let s := ((start c w).run es).scheduler
    released t ++ s.pending = Action.unroll (staged t) ∧
      s.queueLength = s.pending.length ∧
      ∀ (now : Millis) (w' : σ),
        match (s.tick now w').outcome with
        | .executed a => s.pending = a :: (s.tick now w').scheduler.pending
        | .discarded d => s.pending = .step d :: (s.tick now w').scheduler.pending
        | .idle | .gated | .moved | .arrived | .blocked =>
          (s.tick now w').scheduler.pending = s.pending := by
  intro t s
  have hstart : (start c w).scheduler.Stepping := Scheduler.stepping_new c
  refine ⟨released_append_pending hstart rfl es, s.queueLength_eq, fun now w' => ?_⟩
  have htick := Scheduler.pending_tick (stepping_run hstart es) now w'
  cases hout : (s.tick now w').outcome <;> rw [hout] at htick
  case executed a => exact htick
  case discarded d => exact htick
  all_goals exact htick.symm

end Play

end GridScript
