import GridScript.Proofs.Grid.Cells
import GridScript.Proofs.Motion.Line
import GridScript.Proofs.Session.Effects
import GridScript.Proofs.Session.Run
import GridScript.Proofs.World.Obstacles

/-!
The motion of the agent in pixels comes to a walk from cell to cell.

On a map without things and persons a released step leads to the next cell if that cell is free, and
else is dropped. Between the release and the arrival the agent stands on the line between two free
cells, so nothing stops it there: that is the invariant, `OnGrid`. How far a tick takes the agent
does not enter the walk.
-/

namespace GridScript

/-! ### The walk -/

/-- The direction of a step that a tick has released. -/
def Outcome.direction? : Outcome → Option Direction
  | .executed (.step d) => some d
  | .discarded d => some d
  | _ => none

namespace TileMap

/-- Where a step leads. -/
def goes (m : TileMap) (c : Cell) (d : Direction) : Cell :=
  if m.Free (c.next d) then c.next d else c

/-- What is reported of a step. -/
def report (m : TileMap) (c : Cell) (d : Direction) : Outcome :=
  if m.Free (c.next d) then .executed (.step d) else .discarded d

/-- Where some steps lead, one after the other. -/
def walk (m : TileMap) (c : Cell) (ds : List Direction) : Cell := ds.foldl m.goes c

/-- What is reported of some steps. -/
def reports (m : TileMap) : Cell → List Direction → List Outcome
  | _, [] => []
  | c, d :: ds => m.report c d :: reports m (m.goes c d) ds

/-- The cell after a tick. -/
def after (m : TileMap) (c : Cell) (o : Outcome) : Cell := o.direction?.elim c (m.goes c)

end TileMap

/-! ### The invariant -/

/-- A world of a map and an agent. -/
structure World.Bare (w : World) (m : TileMap) : Prop where
  map : w.map = m
  objects : w.objects = []
  npcs : w.npcs = []
  area : w.agent.solidArea.InTile m.edge

/-- The agent is on its way to a cell: on the line from a free cell to this one. -/
structure OnWay (m : TileMap) (c : Cell) (mo : Motion) (p : Position) : Prop where
  target : mo.target = m.corner c
  line : ∃ (start : Cell) (d : Direction) (k : Int), m.Free start ∧ c = start.next d ∧
    0 ≤ k ∧ k ≤ m.edge ∧ p = (m.corner start).offset (d.delta.1 * k) (d.delta.2 * k)

/-- The agent stands on a free cell or is on its way to it. -/
structure OnGrid (m : TileMap) (c : Cell) (s : Scheduler) (w : World) : Prop where
  bare : w.Bare m
  stride : (s.stride : Int) = m.edge
  free : m.Free c
  rest : s.motion = none → w.agent.position = m.corner c
  way : ∀ mo, s.motion = some mo → OnWay m c mo w.agent.position

lemma World.Bare.blockedAt {w : World} {m : TileMap} (h : w.Bare m) (p : Position) :
    Scene.blockedAt w p = m.blocks (w.agent.solidArea.translated p.x p.y) := by
  show (w.map.blocks _ || w.objects.any _ || w.npcs.any _) = _
  rw [h.map, h.objects, h.npcs]
  simp [Scene.solidAt, Agent.solidAt]

section Bare

variable {w : World} {m : TileMap}

lemma World.Bare.face (h : w.Bare m) (d : Direction) : (Scene.face w d).Bare m :=
  ⟨h.map, h.objects, h.npcs, h.area⟩

lemma World.Bare.place (h : w.Bare m) (p : Position) : (Scene.place w p).Bare m :=
  ⟨h.map, h.objects, h.npcs, h.area⟩

lemma World.Bare.stepFrame (h : w.Bare m) : (Scene.stepFrame w).Bare m :=
  ⟨h.map, h.objects, h.npcs, h.area⟩

lemma World.Bare.announce (h : w.Bare m) (text : String) : (Scene.announce w text).Bare m :=
  ⟨h.map, h.objects, h.npcs, h.area⟩

lemma World.Bare.hurt (h : w.Bare m) (amount : UInt32) : (Scene.hurt w amount).Bare m :=
  ⟨h.map, h.objects, h.npcs, h.area⟩

lemma World.Bare.moveTo (h : w.Bare m) (s : Scheduler) (p : Position) (now : Millis) :
    (s.moveTo p now w).Bare m := by
  unfold Scheduler.moveTo
  split
  · exact (h.place p).stepFrame
  · exact h.place p

end Bare

/-- A stride leads from the corner of a free cell to the corner of the next. -/
lemma corner_next {m : TileMap} (hm : m.Fits) {c : Cell} (hc : m.Free c) (d : Direction) :
    m.corner (c.next d) = (m.corner c).along d m.edge := by
  rw [Position.along, hm.offset_corner hc d hm.edge_pos.le le_rfl]
  simp [TileMap.corner, Cell.next, Int.add_mul]

/-! ### On the way -/

namespace OnWay

variable {m : TileMap} {c : Cell} {mo : Motion} {p : Position}

/-- Nothing is in the way of the agent. -/
lemma free_at (hm : m.Fits) {r : Rect} (hr : r.InTile m.edge) (hc : m.Free c)
    (h : OnWay m c mo p) : m.blocks (r.translated p.x p.y) = false := by
  obtain ⟨-, start, d, k, hstart, rfl, h0, hk, rfl⟩ := h
  exact TileMap.blocks_between hm hr hstart hc h0 hk

/-- A tick that does not arrive takes the agent further on its way. -/
lemma ahead (hm : m.Fits) {s : Scheduler} {w : World} (h : OnWay m c mo w.agent.position)
    (far : s.pace < Scheduler.distance mo w) : OnWay m c mo (s.ahead mo w) := by
  obtain ⟨htarget, start, d, k, hstart, rfl, h0, hk, hp⟩ := h
  have hpos : Scene.position w = (m.corner start).along d k := hp
  have hline : mo.target = (Scene.position w).along d (m.edge - k) := by
    rw [htarget, corner_next hm hstart, hpos, Position.along_along _ _ h0 (by omega),
      add_sub_cancel]
  have hedge : m.edge - k ≤ maxLength := by
    have := m.edge_le_maxLength
    omega
  have hfar : (s.pace : Int) < m.edge - k := by
    rw [Scheduler.distance_of_along hline (by omega) hedge] at far
    omega
  refine ⟨htarget, start, d, k + s.pace, hstart, rfl, by omega, by omega, ?_⟩
  rw [Scheduler.ahead_of_along hline hedge hfar, hpos, Position.along_along _ _ h0 (by omega),
    Position.along]

end OnWay

/-! ### A tick -/

namespace OnGrid

variable {m : TileMap} {c : Cell} {s : Scheduler} {w : World}

/-- A step leads to the corner of the next cell. -/
lemma goal_eq (hm : m.Fits) (h : OnGrid m c s w) (hmo : s.motion = none) (d : Direction) :
    s.goal d (Scene.face w d) = m.corner (c.next d) := by
  show w.agent.position.along d s.stride = _
  rw [h.rest hmo, h.stride, corner_next hm h.free]

/-- A step is dropped if and only if the next cell is not free. -/
lemma blockedAt_goal (hm : m.Fits) (h : OnGrid m c s w) (hmo : s.motion = none) (d : Direction) :
    Scene.blockedAt (Scene.face w d) (s.goal d (Scene.face w d)) =
      !decide (m.Free (c.next d)) := by
  rw [(h.bare.face d).blockedAt, h.goal_eq hm hmo]
  exact TileMap.blocks_corner hm (h.bare.face d).area _

/-- What leaves the move and the place of the agent alone keeps it on the grid. -/
lemma keep (h : OnGrid m c s w) {s' : Scheduler} {w' : World} (hmotion : s'.motion = s.motion)
    (htile : s'.tileSize = s.tileSize) (hbare : w'.Bare m)
    (hpos : w'.agent.position = w.agent.position) : OnGrid m c s' w' where
  bare := hbare
  stride := by rw [← h.stride, Scheduler.stride, Scheduler.stride, htile]
  free := h.free
  rest hmo := by rw [hpos, h.rest (hmotion.symm.trans hmo)]
  way mo hmo := by
    rw [hpos]
    exact h.way mo (hmotion.symm.trans hmo)

lemma tick (hm : m.Fits) (h : OnGrid m c s w) (now : Millis) :
    (s.tick now w).outcome ≠ .blocked ∧
      (∀ d, (s.tick now w).outcome.direction? = some d → (s.tick now w).outcome = m.report c d) ∧
      OnGrid m (m.after c (s.tick now w).outcome) (s.tick now w).scheduler
        (s.tick now w).world := by
  have hstep := s.tick_spec now w
  generalize s.tick now w = r at hstep
  have hbare := h.bare
  cases hstep with
  | arrive mo hmo near =>
    refine ⟨by simp, by simp [Outcome.direction?], ?_⟩
    exact ⟨hbare.place _, h.stride, h.free, fun _ => (h.way mo hmo).target,
      fun _ hsome => nomatch hsome⟩
  | block mo hmo far hit =>
    -- on the line between two free cells nothing is in the way
    rw [hbare.blockedAt, ((h.way mo hmo).ahead hm far).free_at hm hbare.area h.free] at hit
    cases hit
  | go mo hmo far free =>
    refine ⟨by simp, by simp [Outcome.direction?], hbare.moveTo s _ now, h.stride, h.free, ?_, ?_⟩
    · intro hnone
      exact absurd (hmo.symm.trans hnone) (Option.some_ne_none mo)
    · intro mo' hmo'
      obtain rfl := Option.some.inj (hmo.symm.trans hmo')
      rw [Scheduler.position_moveTo]
      exact (h.way mo hmo).ahead hm far
  | idle hmo hq =>
    exact ⟨by simp, by simp [Outcome.direction?], h.keep rfl rfl hbare rfl⟩
  | gated hmo hq closed =>
    exact ⟨by simp, by simp [Outcome.direction?], h⟩
  | drop a queue d hmo hq gate ha hit =>
    have hnot : ¬m.Free (c.next d) := by
      rw [h.blockedAt_goal hm hmo] at hit
      simpa using hit
    have hgoes : m.after c (.discarded d) = c := if_neg hnot
    refine ⟨by simp, ?_, ?_⟩
    · rintro _ ⟨⟩
      exact (if_neg hnot).symm
    · rw [hgoes]
      exact h.keep rfl rfl (hbare.face d) rfl
  | start a queue d hmo hq gate ha free =>
    have hnext : m.Free (c.next d) := by
      rw [h.blockedAt_goal hm hmo] at free
      simpa using free
    have hgoes : m.after c (.executed (.step d)) = c.next d := if_pos hnext
    refine ⟨by simp, ?_, ?_⟩
    · rintro _ ⟨⟩
      exact (if_pos hnext).symm
    · rw [hgoes]
      refine ⟨hbare.face d, h.stride, hnext,
        fun hnone => absurd hnone (Option.some_ne_none _), ?_⟩
      rintro _ ⟨⟩
      refine ⟨h.goal_eq hm hmo d, c, d, 0, h.free, rfl, le_rfl, hm.edge_pos.le, ?_⟩
      show w.agent.position = _
      rw [h.rest hmo]
      simp
  | turn d queue hmo hq gate =>
    exact ⟨by simp, by simp [Outcome.direction?], h.keep rfl rfl (hbare.face d) rfl⟩
  | wait ms queue hmo hq gate =>
    exact ⟨by simp, by simp [Outcome.direction?], h.keep rfl rfl hbare rfl⟩
  | print text queue hmo hq gate =>
    exact ⟨by simp, by simp [Outcome.direction?], h.keep rfl rfl (hbare.announce text) rfl⟩

/-- The effects of a line leave the agent on the grid if they do not clear a move. -/
lemma effects (h : OnGrid m c s w) {fx : List Effect}
    (hcalm : s.motion = none ∨ Effect.clear ∉ fx) : OnGrid m c (fx.foldl Effect.apply s) w := by
  induction fx generalizing s with
  | nil => exact h
  | cons e fx ih =>
    cases e with
    | stage a =>
      have hmotion : (s.stage a).motion = s.motion := by rw [s.stage_eq]
      have htile : (s.stage a).tileSize = s.tileSize := by rw [s.stage_eq]
      exact ih (h.keep hmotion htile h.bare rfl)
        (hcalm.imp hmotion.trans fun hnot hmem => hnot (List.mem_cons_of_mem _ hmem))
    | clear =>
      have hnone : s.motion = none := hcalm.resolve_right (by simp)
      have hclear : OnGrid m c s.clear w := h.keep hnone.symm rfl h.bare rfl
      exact ih hclear (.inl rfl)

end OnGrid

/-! ### A run -/

namespace Session

/-- The event does not clear a move that is under way, nor change the world from outside. -/
def Calm (s : Session) : Event → Prop
  | .submit line =>
    s.scheduler.motion = none ∨ Effect.clear ∉ Effect.ofLine s.rules (Scene.reading s.world) line
  | .clear => s.scheduler.motion = none
  | .edit _ => False
  | .tick _ | .setActionDelay _ | .setMoveSpeed _ | .setSpeedLevel _ => True

/-- Every event of a run is calm when it happens. -/
def CalmRun : Session → List Event → Prop
  | _, [] => True
  | s, e :: es => s.Calm e ∧ CalmRun (s.step e) es

/-- The directions of the steps that a run releases, in order. -/
def directions (s : Session) (es : List Event) : List Direction :=
  (s.outcomes es).filterMap Outcome.direction?

/-- What a run reports of the steps that it releases, in order. -/
def moves (s : Session) (es : List Event) : List Outcome :=
  (s.outcomes es).filter fun o => o.direction?.isSome

variable {m : TileMap} {c : Cell} {s : Session}

lemma onGrid_step (hm : m.Fits) (h : OnGrid m c s.scheduler s.world) {e : Event} (he : s.Calm e) :
    OnGrid m ((s.outcome? e).elim c (m.after c)) (s.step e).scheduler (s.step e).world := by
  cases e with
  | submit line =>
    have hfx := h.effects he
    rw [← scheduler_submit] at hfx
    show OnGrid m c (s.rules.submit line s.scheduler s.world).scheduler
      (s.rules.submit line s.scheduler s.world).world
    rw [world_submit]
    split
    · exact hfx
    · exact hfx.keep rfl rfl (h.bare.hurt _) rfl
  | tick now => exact (h.tick hm now).2.2
  | clear =>
    have hnone : s.scheduler.motion = none := he
    exact h.keep hnone.symm rfl h.bare rfl
  | setActionDelay | setMoveSpeed | setSpeedLevel => exact h.keep rfl rfl h.bare rfl
  | edit f => exact he.elim

lemma outcome_spec (hm : m.Fits) (h : OnGrid m c s.scheduler s.world) {e : Event} {o : Outcome}
    (ho : s.outcome? e = some o) :
    o ≠ .blocked ∧ ∀ d, o.direction? = some d → o = m.report c d := by
  cases e with
  | tick now =>
    obtain rfl := Option.some.inj ho
    exact ⟨(h.tick hm now).1, (h.tick hm now).2.1⟩
  | _ => cases ho

lemma onGrid_run (hm : m.Fits) (h : OnGrid m c s.scheduler s.world) {es : List Event}
    (hes : s.CalmRun es) :
    Outcome.blocked ∉ s.outcomes es ∧ s.moves es = m.reports c (s.directions es) ∧
      OnGrid m (m.walk c (s.directions es)) (s.run es).scheduler (s.run es).world := by
  induction es generalizing s c with
  | nil => exact ⟨by simp, rfl, h⟩
  | cons e es ih =>
    have hstep := onGrid_step hm h hes.1
    cases ho : s.outcome? e with
    | none =>
      rw [ho] at hstep
      have hout : s.outcomes (e :: es) = (s.step e).outcomes es := by simp [ho]
      rw [moves, directions, hout]
      exact ih hstep hes.2
    | some o =>
      obtain ⟨hblocked, hreport⟩ := outcome_spec hm h ho
      rw [ho] at hstep
      have hout : s.outcomes (e :: es) = o :: (s.step e).outcomes es := by simp [ho]
      cases hd : o.direction? with
      | none =>
        have hafter : m.after c o = c := by simp [TileMap.after, hd]
        rw [Option.elim_some, hafter] at hstep
        obtain ⟨ih1, ih2, ih3⟩ := ih hstep hes.2
        have hdirs : s.directions (e :: es) = (s.step e).directions es := by
          rw [directions, hout, List.filterMap_cons_none hd, directions]
        have hmoves : s.moves (e :: es) = (s.step e).moves es := by
          rw [moves, hout, List.filter_cons_of_neg (by simp [hd]), moves]
        rw [hout, hdirs, hmoves]
        exact ⟨by simp [hblocked.symm, ih1], ih2, ih3⟩
      | some d =>
        have hafter : m.after c o = m.goes c d := by simp [TileMap.after, hd]
        rw [Option.elim_some, hafter] at hstep
        obtain ⟨ih1, ih2, ih3⟩ := ih hstep hes.2
        have hdirs : s.directions (e :: es) = d :: (s.step e).directions es := by
          rw [directions, hout, List.filterMap_cons_some hd, directions]
        have hmoves : s.moves (e :: es) = o :: (s.step e).moves es := by
          rw [moves, hout, List.filter_cons_of_pos (by simp [hd]), moves]
        rw [hout, hdirs, hmoves]
        refine ⟨by simp [hblocked.symm, ih1], ?_, ih3⟩
        rw [ih2, hreport d hd, TileMap.reports]

/-- The session is a new one on a map, with the agent on a cell, and the run is calm. -/
structure Walks (m : TileMap) (col row : Nat) (s : Session) (es : List Event) : Prop where
  opened : ∃ c : Config, c.tileSize = m.tileSize ∧
    Session.new c (World.new m (m.cellOrigin col row) c) = .ok s
  calm : s.CalmRun es

/-- The agent of a new session stands on its cell. -/
lemma onGrid_new (hm : m.Fits) {col row : Nat} (hfree : m.Free ⟨col, row⟩) {cfg : Config}
    (htile : cfg.tileSize = m.tileSize)
    (h : Session.new cfg (World.new m (m.cellOrigin col row) cfg) = .ok s) :
    OnGrid m ⟨col, row⟩ s.scheduler s.world := by
  have hpos : m.cellOrigin col row = m.corner ⟨col, row⟩ :=
    hm.cellOrigin_eq (Int.ofNat_lt.1 hfree.1.2) (Int.ofNat_lt.1 hfree.2.1.2)
  have harea : Rect.InTile ⟨m.edge / 8, m.edge / 4, m.edge / 2, m.edge / 2⟩ m.edge := by
    have := hm.two_le_edge
    refine ⟨?_, ?_, ?_, ?_, ?_, ?_⟩ <;> dsimp only <;> omega
  have hone : atLeastOne m.tileSize = m.tileSize :=
    atLeastOne_of_pos (Nat.zero_lt_of_lt hm.two_le)
  rw [(new_eq_ok_iff.1 h).2]
  refine ⟨⟨rfl, rfl, rfl, harea⟩, ?_, hfree, fun _ => hpos, fun _ hsome => nomatch hsome⟩
  show (pixels (atLeastOne cfg.tileSize) : Int) = m.edge
  rw [htile, hone]
  rfl

lemma Walks.onGrid (hm : m.Fits) {col row : Nat} (hfree : m.Free ⟨col, row⟩) {es : List Event}
    (h : Walks m col row s es) :
    Outcome.blocked ∉ s.outcomes es ∧ s.moves es = m.reports ⟨col, row⟩ (s.directions es) ∧
      OnGrid m (m.walk ⟨col, row⟩ (s.directions es)) (s.run es).scheduler (s.run es).world := by
  obtain ⟨⟨cfg, htile, hnew⟩, hcalm⟩ := h
  exact onGrid_run hm (onGrid_new hm hfree htile hnew) hcalm

/-- **Pixel motion refines a grid walk**: in a calm run of a session that is new on a map, with the
agent on a free cell, no move is ever stopped. The released steps are reported as a walk from cell
to cell reports them, a step to a cell that is not free being dropped. While no move is under way
the agent stands on the corner of the cell to which this walk leads, a free one. Two such runs that
release the same steps lead to the same place, whatever their speeds, delays and clocks. -/
theorem walk_of_calmRun (hm : m.Fits) {col row : Nat} (hfree : m.Free ⟨col, row⟩)
    {es : List Event} (h : Walks m col row s es) :
    let c := m.walk ⟨col, row⟩ (s.directions es)
    let edge : Int := m.tileSize.toNat
    Outcome.blocked ∉ s.outcomes es ∧
      s.moves es = m.reports ⟨col, row⟩ (s.directions es) ∧
      ((s.run es).scheduler.motion = none →
        m.Free c ∧ (s.run es).world.agent.position = ⟨c.col * edge, c.row * edge⟩) ∧
      ∀ (s' : Session) (es' : List Event), Walks m col row s' es' →
        s'.directions es' = s.directions es →
          (s.run es).scheduler.motion = none → (s'.run es').scheduler.motion = none →
            (s'.run es').world.agent.position = (s.run es).world.agent.position := by
  intro c edge
  obtain ⟨hblocked, hmoves, hgrid⟩ := h.onGrid hm hfree
  refine ⟨hblocked, hmoves, fun hrest => ⟨hgrid.free, ?_⟩, fun s' es' h' hdirs hrest hrest' => ?_⟩
  · rw [hgrid.rest hrest, TileMap.corner, hm.edge_eq]
  · have hgrid' := (h'.onGrid hm hfree).2.2
    rw [hgrid.rest hrest, hgrid'.rest hrest', hdirs]

/-- Three tiles in a row, each two pixels wide. -/
def corridor : TileMap := TileMap.ofSize 3 1 2

/-- One pixel a tick, and no delay. -/
def corridorConfig : Config := { tileSize := 2, moveSpeed := 1, actionDelay := 0 }

def corridorSession : Session :=
  ⟨corridorConfig, corridorConfig.rules, Scheduler.new corridorConfig,
    World.new corridor (corridor.cellOrigin 0 0) corridorConfig⟩

/-- To the end of the corridor and against its wall. -/
def corridorEvents : List Event :=
  [.submit "walk 2 right; move up", .tick 0, .tick 0, .tick 0, .tick 0, .tick 0, .tick 0, .tick 0]

theorem walk_of_calmRun_corridor :
    corridor.Fits ∧ corridor.Free ⟨0, 0⟩ ∧ Walks corridor 0 0 corridorSession corridorEvents ∧
      corridorSession.moves corridorEvents =
        [.executed (.step .right), .executed (.step .right), .discarded .up] ∧
      (corridorSession.run corridorEvents).world.agent.position = ⟨4, 0⟩ := by
  have hm : corridor.Fits := ⟨by decide, by decide, by decide⟩
  have hfree : corridor.Free ⟨0, 0⟩ := by decide
  have hwalks : Walks corridor 0 0 corridorSession corridorEvents :=
    ⟨⟨corridorConfig, rfl, rfl⟩, .inl rfl, trivial, trivial, trivial, trivial, trivial, trivial,
      trivial, trivial⟩
  have hdirs : corridorSession.directions corridorEvents = [.right, .right, .up] := by
    decide +kernel
  have hrest : (corridorSession.run corridorEvents).scheduler.motion = none := by decide +kernel
  obtain ⟨-, hmoves, hpos, -⟩ := walk_of_calmRun hm hfree hwalks
  rw [hdirs] at hmoves hpos
  exact ⟨hm, hfree, hwalks, hmoves.trans (by decide), (hpos hrest).2.trans (by decide)⟩

end Session

end GridScript
