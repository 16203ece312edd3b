import GridScript.Proofs.Session.Effects
import GridScript.Proofs.Session.Inputs
import GridScript.Proofs.World.Obstacles

/-!
What a world has gone through is what was reported.

The outcome of a tick names the one thing that the tick has changed, and an error in a line costs
health and nothing else. So the messages shown, the direction faced and the health can be read off
what the inputs of a run have reported, and nothing is put in the way of the agent.
-/

namespace GridScript

/-! ### A tick -/

namespace Outcome

/-- The message that the tick has shown. -/
def printed? : Outcome → Option String
  | .executed (.print text) => some text
  | _ => none

/-- The direction that the agent was made to face, also for a move that was dropped. -/
def faced? : Outcome → Option Direction
  | .discarded d | .executed (.step d) | .executed (.turn d) => some d
  | _ => none

/-- The world after a tick with some outcome: what the outcome does not speak of is as before. -/
def Accounts (s : Scheduler) (w w' : World) : Outcome → Prop
  | .idle | .gated | .blocked | .executed (.wait _) => w' = w
  | .moved => ∃ m frame, s.motion = some m ∧
      (frame = w.agent.frame ∨ frame = w.agent.stepFrame.frame) ∧
      w' = { w with agent := { w.agent with position := s.ahead m w, frame := frame } }
  | .arrived => ∃ m, s.motion = some m ∧
      w' = { w with agent := { w.agent with position := m.target } }
  | .discarded d | .executed (.step d) | .executed (.turn d) =>
      w' = { w with agent := { w.agent with facing := d } }
  | .executed (.print text) => ∃ bar, w' = { w with messages := bar } ∧
      bar.current = some text ∧ bar.history = w.messages.history ++ [text]
  | .executed (.walk _ _) => False

end Outcome

lemma Scheduler.accounts_tick (s : Scheduler) (now : Millis) (w : World) :
    (s.tick now w).outcome.Accounts s w (s.tick now w).world := by
  have hstep := s.tick_spec now w
  generalize s.tick now w = r at hstep ⊢
  cases hstep with
  | arrive m hm near => exact ⟨m, hm, rfl⟩
  | go m hm far free =>
    unfold moveTo
    split
    · exact ⟨m, _, hm, .inr rfl, rfl⟩
    · exact ⟨m, _, hm, .inl rfl, rfl⟩
  | print text => exact ⟨_, rfl, rfl, MessageBar.history_announce _ _⟩
  | block | idle | gated | drop | start | turn | wait => rfl

/-! ### What adds up over a run -/

/-- The world after some outcomes of ticks and some damage. -/
structure World.Follows (w : World) (os : List Outcome) (damage : List UInt32) (w' : World) :
    Prop where
  history : w'.messages.history = w.messages.history ++ os.filterMap Outcome.printed?
  message : w'.messages.current = (os.filterMap Outcome.printed?).getLast?.or w.messages.current
  facing : w'.agent.facing = (os.filterMap Outcome.faced?).getLast?.getD w.agent.facing
  obstacles : w.SameObstacles w'
  health : w'.health = damage.foldl Health.damage w.health

namespace World.Follows

variable {w w' w'' : World}

lemma refl (w : World) : w.Follows [] [] w :=
  ⟨(List.append_nil _).symm, rfl, rfl, .refl w, rfl⟩

lemma trans {os os' : List Outcome} {ds ds' : List UInt32} (h : w.Follows os ds w')
    (h' : w'.Follows os' ds' w'') : w.Follows (os ++ os') (ds ++ ds') w'' where
  history := by rw [h'.history, h.history, List.filterMap_append, List.append_assoc]
  message := by
    rw [h'.message, h.message, List.filterMap_append, List.getLast?_append, Option.or_assoc]
  facing := by
    rw [h'.facing, h.facing, List.filterMap_append, List.getLast?_append, Option.getD_or]
  obstacles := h.obstacles.trans h'.obstacles
  health := by rw [h'.health, h.health, List.foldl_append]

/-- An outcome of a tick that shows nothing and changes the agent at most. -/
lemma agent {o : Outcome} {a : Agent} (hprinted : o.printed? = none)
    (hfacing : a.facing = o.faced?.getD w.agent.facing)
    (hsolid : a.solidArea = w.agent.solidArea) : w.Follows [o] [] { w with agent := a } where
  history := by simp [hprinted]
  message := by simp [hprinted]
  facing := by cases hfaced : o.faced? <;> simp [hfaced, hfacing]
  obstacles := ⟨rfl, rfl, rfl, hsolid⟩
  health := rfl

end World.Follows

/-- What an outcome says of its tick is what it adds. -/
lemma Outcome.Accounts.follows {s : Scheduler} {w w' : World} {o : Outcome}
    (h : o.Accounts s w w') : w.Follows [o] [] w' := by
  match o, h with
  | .idle, h | .gated, h | .blocked, h | .executed (.wait _), h =>
    subst h
    exact .agent rfl rfl rfl
  | .moved, ⟨_, _, _, _, h⟩ =>
    subst h
    exact .agent rfl rfl rfl
  | .arrived, ⟨_, _, h⟩ =>
    subst h
    exact .agent rfl rfl rfl
  | .discarded _, h | .executed (.step _), h | .executed (.turn _), h =>
    subst h
    exact .agent rfl rfl rfl
  | .executed (.print _), ⟨_, h, hcurrent, hhistory⟩ =>
    subst h
    exact ⟨hhistory, hcurrent, rfl, ⟨rfl, rfl, rfl, rfl⟩, rfl⟩

/-! ### Runs -/

def Reply.outcome? : Reply → Option Outcome
  | outcome o => some o
  | report _ => none

/-- The world is changed from outside. -/
def Input.isEdit {σ : Type} : Input σ → Bool
  | .event (.edit _) => true
  | _ => false

namespace Play

section Reported

variable {σ : Type} [Scene σ]

/-- The outcomes of the ticks of a run, in order. -/
def outcomes : Play σ → List (Input σ) → List Outcome
  | _, [] => []
  | p, i :: is => ((p.reply? i).bind Reply.outcome?).toList ++ outcomes (p.handle i) is

/-- The damage that an input costs the agent: a line with an error does. -/
def penalty? (p : Play σ) : Input σ → Option UInt32
  | .event _ => none
  | .submit rules line =>
    if (rules.submit line p.scheduler p.world).report.success then none
    else some rules.damagePerError

/-- The damage by the lines of a run, in order. -/
def penalties : Play σ → List (Input σ) → List UInt32
  | _, [] => []
  | p, i :: is => (p.penalty? i).toList ++ penalties (p.handle i) is

end Reported

/-- An input adds its outcome or its damage. -/
lemma follows_handle (p : Play World) {i : Input World} (hi : i.isEdit = false) :
    p.world.Follows ((p.reply? i).bind Reply.outcome?).toList (p.penalty? i).toList
      (p.handle i).world := by
  cases i with
  | event e =>
    cases e with
    | tick now => exact (p.scheduler.accounts_tick now p.world).follows
    | edit f => cases hi
    | stage | clear | setActionDelay | setMoveSpeed => exact .refl p.world
  | submit rules line =>
    rw [handle_submit, world_submit, penalty?]
    split
    · exact .refl p.world
    · exact ⟨(List.append_nil _).symm, rfl, rfl, ⟨rfl, rfl, rfl, rfl⟩, rfl⟩

lemma follows_run (p : Play World) {is : List (Input World)} (his : ∀ i ∈ is, i.isEdit = false) :
    p.world.Follows (p.outcomes is) (p.penalties is) (is.foldl handle p).world := by
  induction is generalizing p with
  | nil => exact .refl p.world
  | cons i is ih =>
    obtain ⟨hi, his⟩ := List.forall_mem_cons.1 his
    exact (p.follows_handle hi).trans (ih (p.handle i) his)

/-- **The world follows what is reported**: a tick changes what its outcome says and nothing else.
So over a run without edits of the world the history grows by the messages of the prints that were
carried out, the agent faces the way of the last move that was released, dropped ones included, or
of the last turn, and nothing that is in the way of the agent changes. Health changes by the damage
of lines with an error, and by nothing else. -/
theorem world_follows_reports (p : Play World) :
    (∀ now, (p.ticked now).outcome.Accounts p.scheduler p.world (p.ticked now).world) ∧
      (∀ i, i.isEdit = false → (p.handle i).world.health ≠ p.world.health →
        ∃ rules line, i = .submit rules line ∧
          (rules.submit line p.scheduler p.world).report.success = false) ∧
      ∀ is, (∀ i ∈ is, i.isEdit = false) →
        p.world.Follows (p.outcomes is) (p.penalties is) (is.foldl handle p).world := by
  refine ⟨fun now => p.scheduler.accounts_tick now p.world, fun i hi hhealth => ?_,
    fun is his => p.follows_run his⟩
  have hfollows := (p.follows_handle hi).health
  cases i with
  | event e => exact absurd hfollows hhealth
  | submit rules line =>
    refine ⟨rules, line, rfl, Bool.eq_false_iff.2 fun hsuccess => hhealth ?_⟩
    rwa [penalty?, if_pos hsuccess] at hfollows

/-- A line with an error, a message, a move that is dropped, a turn, and a move. -/
def errand : List (Input World) :=
  [.submit rowConfig.rules "print \"go\"; jump; move left; turn up", .event (.tick 0),
    .event (.tick 2), .event (.tick 3), .event (.tick 6), .submit rowConfig.rules "move right",
    .event (.tick 9), .event (.tick 9), .event (.tick 9), .event (.tick 9)]

theorem world_follows_reports_row :
    let p := start rowConfig rowWorld
    let w := (errand.foldl handle p).world
    p.outcomes errand = [.executed (.print "go"), .gated, .discarded .left, .executed (.turn .up),
        .executed (.step .right), .moved, .arrived, .idle] ∧
      p.penalties errand = [1] ∧
      w.messages.history = ["go"] ∧ w.agent.facing = .right ∧ rowWorld.SameObstacles w ∧
      w.health = rowWorld.health.damage 1 := by
  intro p w
  have houtcomes : p.outcomes errand = [.executed (.print "go"), .gated, .discarded .left,
      .executed (.turn .up), .executed (.step .right), .moved, .arrived, .idle] := by
    decide +kernel
  have hpenalties : p.penalties errand = [1] := by decide +kernel
  obtain ⟨-, -, hrun⟩ := world_follows_reports p
  have hfollows : rowWorld.Follows (p.outcomes errand) (p.penalties errand) w :=
    hrun errand (by decide +kernel)
  rw [houtcomes, hpenalties] at hfollows
  -- what the world has become is no longer needed
  clear_value w
  exact ⟨houtcomes, hpenalties, hfollows.history.trans (by decide +kernel),
    hfollows.facing.trans (by decide +kernel), hfollows.obstacles,
    hfollows.health.trans (by decide +kernel)⟩

end Play

end GridScript
