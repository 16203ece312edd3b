import GridScript.Proofs.Motion.Fifo
import GridScript.Proofs.Script.Repeats
import GridScript.Proofs.Session.Effects
import GridScript.Proofs.Session.Inputs
import GridScript.Proofs.World.Obstacles

/-!
How the queue groups its steps into walks cannot be seen.

Unrolling the walks in the queue commutes with every tick. So two schedulers that agree once their
walks are unrolled report the same whatever happens to them, and a walk, a loop of moves and as many
moves in a row come to the same thing.
-/

namespace GridScript

namespace Action

@[simp] lemma single_single (a : Action) : a.single.single = a.single := by
  cases a <;> rfl

@[simp] lemma rest_single (a : Action) : a.single.rest = [] := by
  cases a <;> rfl

end Action

namespace Scheduler

/-- The scheduler with the walks in its queue unrolled. -/
def unrolled (s : Scheduler) : Scheduler := { s with queue := s.pending }

/-- Two schedulers that differ at most in how their queues group the steps into walks: they have no
action without steps, and agree once their walks are unrolled. -/
structure Regrouped (s t : Scheduler) : Prop where
  left : s.Stepping
  right : t.Stepping
  unrolled : s.unrolled = t.unrolled

lemma unrolled_stage (s : Scheduler) (a : Action) :
    (s.stage a).unrolled = { s.unrolled with queue := s.pending ++ a.steps } := by
  rw [unrolled, pending_stage, stage_eq]
  rfl

lemma unrolled_clear (s : Scheduler) : s.clear.unrolled = s.unrolled.clear := rfl

lemma unrolled_dequeue (s : Scheduler) (a : Action) (queue : List Action) (now : Millis) :
    (s.dequeue a queue now).unrolled =
      s.unrolled.dequeue a.single (s.dequeue a queue now).pending now := by
  simp [unrolled, dequeue]

/-- No step waits if and only if the queue is empty. -/
lemma Stepping.pending_eq_nil {s : Scheduler} (h : s.Stepping) : s.pending = [] ↔ s.queue = [] := by
  refine ⟨fun hp => ?_, fun hq => by simp [pending, hq, Action.unroll]⟩
  rcases hq : s.queue with _ | ⟨a, queue⟩
  · rfl
  · rw [pending_dequeue h hq 0] at hp
    cases hp

lemma Stepping.effects {s : Scheduler} (h : s.Stepping) (fx : List Effect) :
    (fx.foldl Effect.apply s).Stepping :=
  Effect.foldl_inv (fun a h => h.stage a) (fun _ => Stepping.clear _) h fx

variable {σ : Type} [Scene σ]

/-- The unrolled scheduler ticks as the scheduler does. -/
lemma tick_unrolled {s : Scheduler} (h : s.Stepping) (now : Millis) (w : σ) :
    s.unrolled.tick now w =
      ⟨(s.tick now w).outcome, (s.tick now w).scheduler.unrolled, (s.tick now w).world⟩ := by
  -- the way in which the tick of `s` ends is open to the unrolled scheduler too
  have hstep := s.tick_spec now w
  generalize s.tick now w = r at hstep
  cases hstep with
  | arrive m hm near => exact (Tick.arrive (s := s.unrolled) m hm near).tick_eq
  | block m hm far hit => exact (Tick.block (s := s.unrolled) m hm far hit).tick_eq
  | go m hm far free => exact (Tick.go (s := s.unrolled) m hm far free).tick_eq
  | idle hm hq =>
    exact (Tick.idle (s := s.unrolled) hm (h.pending_eq_nil.2 hq)).tick_eq
  | gated hm hq closed =>
    exact (Tick.gated (s := s.unrolled) hm (mt h.pending_eq_nil.1 hq) closed).tick_eq
  | drop a queue d hm hq gate ha hit =>
    rw [unrolled_dequeue]
    exact (Tick.drop (s := s.unrolled) a.single _ d hm (pending_dequeue h hq now) gate
      (a.single_single.trans ha) hit).tick_eq
  | start a queue d hm hq gate ha free =>
    have hstart := (Tick.start (s := s.unrolled) a.single _ d hm (pending_dequeue h hq now) gate
      (a.single_single.trans ha) free).tick_eq
    rw [← unrolled_dequeue] at hstart
    exact hstart
  | turn d queue hm hq gate =>
    exact (Tick.turn (s := s.unrolled) d _ hm (pending_dequeue h hq now) gate).tick_eq
  | wait ms queue hm hq gate =>
    exact (Tick.wait (s := s.unrolled) ms _ hm (pending_dequeue h hq now) gate).tick_eq
  | print text queue hm hq gate =>
    exact (Tick.print (s := s.unrolled) text _ hm (pending_dequeue h hq now) gate).tick_eq

namespace Regrouped

variable {s t : Scheduler}

/-- What does not look at the queue is the same of both. -/
lemma congr {β : Type} (h : s.Regrouped t) (f : Scheduler → β)
    (hf : ∀ (s : Scheduler) (queue : List Action), f { s with queue := queue } = f s) :
    f s = f t := by
  rw [← hf s s.pending, ← hf t t.pending]
  exact congrArg f h.unrolled

lemma pending (h : s.Regrouped t) : s.pending = t.pending := congrArg queue h.unrolled

lemma stage (h : s.Regrouped t) (a : Action) : (s.stage a).Regrouped (t.stage a) where
  left := h.left.stage a
  right := h.right.stage a
  unrolled := by rw [unrolled_stage, unrolled_stage, h.unrolled, h.pending]

lemma clear (h : s.Regrouped t) : s.clear.Regrouped t.clear where
  left := Stepping.clear s
  right := Stepping.clear t
  unrolled := by rw [unrolled_clear, unrolled_clear, h.unrolled]

lemma setActionDelay (h : s.Regrouped t) (ms : Millis) :
    (s.setActionDelay ms).Regrouped (t.setActionDelay ms) where
  left := h.left
  right := h.right
  unrolled := congrArg (fun r => r.setActionDelay ms) h.unrolled

lemma setMoveSpeed (h : s.Regrouped t) (speed : UInt32) :
    (s.setMoveSpeed speed).Regrouped (t.setMoveSpeed speed) where
  left := h.left
  right := h.right
  unrolled := congrArg (fun r => r.setMoveSpeed speed) h.unrolled

lemma effects (h : s.Regrouped t) (fx : List Effect) :
    (fx.foldl Effect.apply s).Regrouped (fx.foldl Effect.apply t) :=
  Effect.rel_foldl (R := Regrouped) (fun a h => h.stage a) clear h fx

/-- A tick does the same to both. -/
lemma tick (h : s.Regrouped t) (now : Millis) (w : σ) :
    (s.tick now w).outcome = (t.tick now w).outcome ∧
      (s.tick now w).world = (t.tick now w).world ∧
      (s.tick now w).scheduler.Regrouped (t.tick now w).scheduler := by
  have hs := tick_unrolled h.left now w
  rw [h.unrolled, tick_unrolled h.right now w] at hs
  obtain ⟨hout, hsched, hworld⟩ := Ticked.mk.inj hs
  exact ⟨hout.symm, hworld.symm, h.left.tick now w, h.right.tick now w, hsched.symm⟩

/-- A line does the same to both. -/
lemma submit (h : s.Regrouped t) (rules : Rules) (line : String) (w : σ) :
    (rules.submit line s w).report = (rules.submit line t w).report ∧
      (rules.submit line s w).world = (rules.submit line t w).world ∧
      (rules.submit line s w).scheduler.Regrouped (rules.submit line t w).scheduler := by
  have hreport := report_submit rules line s w t
  refine ⟨hreport, ?_, ?_⟩
  · rw [world_submit, world_submit, hreport]
  · rw [scheduler_submit, scheduler_submit]
    exact h.effects _

lemma isBusy_eq (h : s.Regrouped t) : s.isBusy = t.isBusy := by
  have hqueue : s.queue.isEmpty = t.queue.isEmpty := by
    rw [Bool.eq_iff_iff, List.isEmpty_iff, List.isEmpty_iff, ← h.left.pending_eq_nil,
      ← h.right.pending_eq_nil, h.pending]
  rw [isBusy, isBusy, hqueue, h.congr motion fun _ _ => rfl, h.congr executing fun _ _ => rfl]

end Regrouped

end Scheduler

/-! ### Lines that only stage -/

/-- The line has no errors, and stages some actions and nothing else. -/
structure Rules.Stages (rules : Rules) (line : String) (as : List Action) : Prop where
  errors : Script.errors (Script.readLine rules.maxRepeat line.toList) = []
  effects : ∀ read, Effect.ofLine rules read line = as.map .stage

lemma Scheduler.unrolled_stages (s : Scheduler) (as : List Action) :
    ((as.map Effect.stage).foldl Effect.apply s).unrolled =
      { s.unrolled with queue := s.pending ++ Action.unroll as } := by
  induction as generalizing s with
  | nil => simp [unrolled, Action.unroll]
  | cons a as ih =>
    rw [List.map_cons, List.foldl_cons, ih]
    show { (s.stage a).unrolled with queue := (s.stage a).pending ++ Action.unroll as } = _
    rw [unrolled_stage, pending_stage, List.append_assoc]
    rfl

/-- Actions with the same steps are staged alike. -/
lemma Scheduler.Regrouped.stages {s t : Scheduler} (h : s.Regrouped t) {as bs : List Action}
    (hab : Action.unroll as = Action.unroll bs) :
    ((as.map Effect.stage).foldl Effect.apply s).Regrouped
      ((bs.map Effect.stage).foldl Effect.apply t) where
  left := h.left.effects _
  right := h.right.effects _
  unrolled := by rw [unrolled_stages, unrolled_stages, h.unrolled, h.pending, hab]

lemma sum_stepCount_stages (as : List Action) :
    ((as.map Effect.stage).map Effect.stepCount).sum = (Action.unroll as).length := by
  induction as with
  | nil => rfl
  | cons a as ih => simpa [Action.unroll, Effect.stepCount] using ih

namespace Rules.Stages

variable {σ : Type} [Scene σ] {rules : Rules} {line : String} {as : List Action}

lemma success (h : rules.Stages line as) (s : Scheduler) (w : σ) :
    (rules.submit line s w).report.success = true := by
  simp only [Rules.submit, h.errors, List.isEmpty_nil]

lemma report_eq (h : rules.Stages line as) (s : Scheduler) (w : σ) :
    (rules.submit line s w).report = ⟨true, [], (Action.unroll as).length, false⟩ := by
  have hstaged := staged_submit rules line s w
  rw [h.effects, sum_stepCount_stages] at hstaged
  simp only [Rules.submit, h.errors, List.isEmpty_nil, Bool.not_true] at hstaged ⊢
  rw [hstaged]

lemma scheduler_eq (h : rules.Stages line as) (s : Scheduler) (w : σ) :
    (rules.submit line s w).scheduler = (as.map Effect.stage).foldl Effect.apply s := by
  rw [scheduler_submit, h.effects]

lemma world_eq (h : rules.Stages line as) (s : Scheduler) (w : σ) :
    (rules.submit line s w).world = w := by
  rw [world_submit, if_pos (h.success s w)]

end Rules.Stages

lemma flatMap_eq_replicate {α β : Type} {f : α → List β} {b : β} {l : List α}
    (h : ∀ a ∈ l, f a = [b]) : l.flatMap f = List.replicate l.length b := by
  induction l with
  | nil => rfl
  | cons a l ih =>
    rw [List.flatMap_cons, h a List.mem_cons_self, ih fun c hc => h c (List.mem_cons_of_mem a hc)]
    rfl

section Repeats

variable {rules : Rules} {n : UInt32} {x ds w : List Char} {d : Direction}

lemma stages_walkText (hn : n ≤ rules.maxRepeat) (hds : Script.Grammar.Numeral ds n.toNat)
    (hw : Script.Grammar.DirectionWord w d) :
    rules.Stages (String.ofList (Script.walkText ds w)) [.walk d n] where
  errors := by
    rw [String.toList_ofList, Script.readLine_walkText hds hn hw]
    rfl
  effects read := by
    rw [Effect.ofLine, String.toList_ofList, Script.readLine_walkText hds hn hw]
    rfl

lemma stages_loopText (hn : n ≤ rules.maxRepeat) (hx : Script.Grammar.Name x)
    (hds : Script.Grammar.Numeral ds n.toNat) (hw : Script.Grammar.DirectionWord w d) :
    rules.Stages (String.ofList (Script.loopText x ds w)) (List.replicate n.toNat (.step d)) where
  errors := by
    rw [String.toList_ofList, Script.readLine_loopText hx hds hn hw]
    rfl
  effects read := by
    -- every round has the effect of its move
    have hrounds := flatMap_eq_replicate (l := List.range n.toNat)
      (f := fun _ => [Effect.stage (.step d)]) fun _ _ => rfl
    rw [List.length_range] at hrounds
    rw [List.map_replicate, ← hrounds, Effect.ofLine, String.toList_ofList,
      Script.readLine_loopText hx hds hn hw]
    simp [Effect.ofParts, Effect.ofStatement, Effect.ofCommand]

lemma stages_movesText (hw : Script.Grammar.DirectionWord w d) (k : Nat) :
    rules.Stages (String.ofList (Script.movesText k w)) (List.replicate k (.step d)) where
  errors := by
    rw [String.toList_ofList, Script.readLine_movesText hw]
    simp [Script.errors]
  effects read := by
    rw [Effect.ofLine, String.toList_ofList, Script.readLine_movesText hw, List.map_replicate,
      Effect.ofParts, flatMap_eq_replicate, List.length_replicate]
    intro part hpart
    rw [List.eq_of_mem_replicate hpart]
    rfl

lemma Action.unroll_replicate_step (k : Nat) (d : Direction) :
    unroll (List.replicate k (.step d)) = List.replicate k (.step d) := by
  have h := flatMap_eq_replicate (l := List.replicate k (.step d)) (f := steps) (b := .step d)
    fun a ha => by rw [List.eq_of_mem_replicate ha]; rfl
  rwa [List.length_replicate] at h

/-- The three lines for some steps stage these steps. -/
lemma stages_of_mem_repeats (hn : n ≤ rules.maxRepeat) (hx : Script.Grammar.Name x)
    (hds : Script.Grammar.Numeral ds n.toNat) (hw : Script.Grammar.DirectionWord w d)
    {line : String} (hline : line ∈ Script.repeats x ds w n.toNat) :
    ∃ as, rules.Stages line as ∧ Action.unroll as = List.replicate n.toNat (.step d) := by
  have hmem : line = String.ofList (Script.walkText ds w) ∨
      line = String.ofList (Script.loopText x ds w) ∨
        line = String.ofList (Script.movesText n.toNat w) := by
    simpa [Script.repeats] using hline
  have hmoves := Action.unroll_replicate_step n.toNat d
  rcases hmem with rfl | rfl | rfl
  · exact ⟨_, stages_walkText hn hds hw, List.append_nil _⟩
  · exact ⟨_, stages_loopText hn hx hds hw, hmoves⟩
  · exact ⟨_, stages_movesText hw n.toNat, hmoves⟩

end Repeats

/-! ### Runs -/

namespace Play

variable {σ : Type}

/-- Two plays in the same world whose schedulers differ at most in how they group the steps. -/
structure Regrouped (p q : Play σ) : Prop where
  scheduler : p.scheduler.Regrouped q.scheduler
  world : p.world = q.world

namespace Regrouped

variable {p q : Play σ}

lemma view_eq (h : p.Regrouped q) : p.view = q.view := by
  have hs := h.scheduler
  rw [view, view, Scheduler.queueLength_eq, Scheduler.queueLength_eq, hs.pending, hs.isBusy_eq,
    hs.congr Scheduler.motion fun _ _ => rfl, hs.congr Scheduler.gate fun _ _ => rfl, h.world]

variable [Scene σ]

lemma step (h : p.Regrouped q) (e : Event σ) :
    p.outcome? e = q.outcome? e ∧ (p.step e).Regrouped (q.step e) := by
  obtain ⟨s, w⟩ := p
  obtain ⟨t, w'⟩ := q
  obtain ⟨hs, rfl : w = w'⟩ := h
  cases e with
  | stage a => exact ⟨rfl, hs.stage a, rfl⟩
  | tick now =>
    obtain ⟨hout, hworld, hticked⟩ := hs.tick now w
    exact ⟨congrArg some hout, hticked, hworld⟩
  | clear => exact ⟨rfl, hs.clear, rfl⟩
  | setActionDelay ms => exact ⟨rfl, hs.setActionDelay ms, rfl⟩
  | setMoveSpeed speed => exact ⟨rfl, hs.setMoveSpeed speed, rfl⟩
  | edit f => exact ⟨rfl, hs, rfl⟩

lemma handle (h : p.Regrouped q) (i : Input σ) :
    p.reply? i = q.reply? i ∧ (p.handle i).Regrouped (q.handle i) := by
  cases i with
  | event e =>
    obtain ⟨hout, hstep⟩ := h.step e
    exact ⟨congrArg (Option.map Reply.outcome) hout, hstep⟩
  | submit rules line =>
    obtain ⟨s, w⟩ := p
    obtain ⟨t, w'⟩ := q
    obtain ⟨hs, rfl : w = w'⟩ := h
    obtain ⟨hreport, hworld, hsched⟩ := hs.submit rules line w
    refine ⟨congrArg (fun r => some (Reply.report r)) hreport, ?_, ?_⟩
    · simpa only [handle_submit] using hsched
    · simpa only [handle_submit] using hworld

lemma observed_eq (h : p.Regrouped q) (is : List (Input σ)) : p.observed is = q.observed is := by
  induction is generalizing p q with
  | nil => rfl
  | cons i is ih =>
    obtain ⟨hreply, hnext⟩ := h.handle i
    rw [observed_cons, observed_cons, hreply, hnext.view_eq, ih hnext]

/-- Lines that stage the same steps do the same to both. -/
lemma handle_stages (h : p.Regrouped q) {rules : Rules} {l l' : String} {as bs : List Action}
    (hl : rules.Stages l as) (hl' : rules.Stages l' bs)
    (hab : Action.unroll as = Action.unroll bs) :
    p.reply? (.submit rules l) = q.reply? (.submit rules l') ∧
      (p.handle (.submit rules l)).Regrouped (q.handle (.submit rules l')) := by
  have hsched := h.scheduler.stages hab
  rw [← hl.scheduler_eq p.scheduler p.world, ← hl'.scheduler_eq q.scheduler q.world] at hsched
  refine ⟨?_, ?_, ?_⟩
  · rw [reply?, reply?, hl.report_eq, hl'.report_eq, hab]
  · simpa only [handle_submit] using hsched
  · simp only [handle_submit, hl.world_eq, hl'.world_eq, h.world]

end Regrouped

variable [Scene σ]

/-- **Walks are as good as single steps**: two schedulers that differ at most in how their queues
group the steps into walks, in the same world, report the same and look the same after every input
of every run. So a walk, a loop of moves and as many moves in a row make no difference either, not
even for schedulers that differ in this way before. -/
theorem observed_regrouped {p q : Play σ} (h : p.Regrouped q) (is : List (Input σ)) :
    p.view = q.view ∧ p.observed is = q.observed is ∧
      ∀ (rules : Rules) (n : UInt32) (x ds w : List Char) (d : Direction), n ≤ rules.maxRepeat →
        Script.Grammar.Name x → Script.Grammar.Numeral ds n.toNat →
          Script.Grammar.DirectionWord w d →
            ∀ l ∈ Script.repeats x ds w n.toNat, ∀ l' ∈ Script.repeats x ds w n.toNat,
              p.observed (.submit rules l :: is) = q.observed (.submit rules l' :: is) := by
  refine ⟨h.view_eq, h.observed_eq is, fun rules n x ds w d hn hx hds hw l hl l' hl' => ?_⟩
  obtain ⟨as, has, hsteps⟩ := stages_of_mem_repeats hn hx hds hw hl
  obtain ⟨bs, hbs, hsteps'⟩ := stages_of_mem_repeats hn hx hds hw hl'
  obtain ⟨hreply, hnext⟩ := h.handle_stages has hbs (hsteps.trans hsteps'.symm)
  rw [observed_cons, observed_cons, hreply, hnext.view_eq, hnext.observed_eq is]

/-- The agent in a row of three tiles, with a walk of two steps in the queue. -/
def walking : Play World :=
  ⟨{ Scheduler.new rowConfig with queue := [.walk .right 2] }, rowWorld⟩

/-- The same with two single steps. -/
def stepping : Play World :=
  ⟨{ Scheduler.new rowConfig with queue := [.step .right, .step .right] }, rowWorld⟩

/-- Two more steps are staged, and the first of those in the queue sets out. -/
theorem observed_regrouped_row :
    walking.Regrouped stepping ∧ walking.scheduler.queue ≠ stepping.scheduler.queue ∧
      walking.observed [.submit rowConfig.rules "walk 2 left", .event (.tick 0)] =
        stepping.observed [.submit rowConfig.rules "move left;move left", .event (.tick 0)] ∧
      (walking.observed [.submit rowConfig.rules "walk 2 left", .event (.tick 0)]).map Prod.fst =
        [some (.report ⟨true, [], 2, false⟩), some (.outcome (.executed (.step .right)))] := by
  have hwalking : ∀ a ∈ walking.scheduler.queue, 0 < a.stepCount := by decide
  have hstepping : ∀ a ∈ stepping.scheduler.queue, 0 < a.stepCount := by decide
  have hregrouped : walking.Regrouped stepping := ⟨⟨hwalking, hstepping, rfl⟩, rfl⟩
  have hname : Script.Grammar.Name ['v'] :=
    .mk (Script.isNameStart_iff.1 (by decide)) fun _ h => nomatch h
  have hnumeral : Script.Grammar.Numeral ['2'] (2 : UInt32).toNat :=
    Script.natural?_eq_some_iff.1 (by decide)
  have hword : Script.Grammar.DirectionWord "left".toList .left :=
    Script.ofWord?_eq_some_iff.1 (by decide)
  obtain ⟨-, -, hlines⟩ := observed_regrouped hregrouped [.event (.tick 0)]
  refine ⟨hregrouped, by decide, ?_, by decide +kernel⟩
  exact hlines rowConfig.rules 2 ['v'] ['2'] "left".toList .left (by decide) hname hnumeral hword
    "walk 2 left" (by decide) "move left;move left" (by decide)

end Play

end GridScript
