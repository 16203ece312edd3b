import GridScript.Proofs.Grid.Cells
import GridScript.Proofs.Motion.Line
import GridScript.Proofs.Session.Course
import GridScript.Proofs.Session.Settings
import GridScript.Proofs.World.Obstacles
import Mathlib.Algebra.Group.Prod
import Mathlib.Data.Int.ModEq

/-!
Where moves lead once the agent is off the grid.

A move leads one tile away from where the agent stands. As long as moves end on their targets, an
agent that starts on the grid stays on it. A move that is cut short, by a clear or by something in
the way, leaves the agent where it has got to, and nothing takes it back: the ways that such moves
have covered add up, and later moves are off the grid by what they come to.

A target that wraps around would be off the grid too. None does: what it wraps around to is not on
the map, which the solid area of the agent has not left.
-/

namespace GridScript

/-- The point is off the grid by `q`, up to whole tiles. -/
structure Position.OffGrid (p : Position) (tile : ℕ) (q : ℤ × ℤ) : Prop where
  x : p.x ≡ q.1 [ZMOD tile]
  y : p.y ≡ q.2 [ZMOD tile]

namespace Position.OffGrid

variable {p : Position} {tile : ℕ} {q : ℤ × ℤ}

/-- A step of one tile leads to a point that is off the grid by as much. -/
lemma beyond (h : p.OffGrid tile q) (d : Direction) : (p.beyond d tile).OffGrid tile q :=
  ⟨Int.add_mul_modulus_modEq_iff.2 h.x, Int.add_mul_modulus_modEq_iff.2 h.y⟩

/-- What a move covers puts the agent off the grid by that much more. -/
lemma shift {o : Position} (h : o.OffGrid tile q) (p : Position) :
    p.OffGrid tile (q + (p.x - o.x, p.y - o.y)) := by
  constructor
  · calc p.x = o.x + (p.x - o.x) := (add_sub_cancel _ _).symm
      _ ≡ q.1 + (p.x - o.x) [ZMOD tile] := h.x.add_right _
  · calc p.y = o.y + (p.y - o.y) := (add_sub_cancel _ _).symm
      _ ≡ q.2 + (p.y - o.y) [ZMOD tile] := h.y.add_right _

end Position.OffGrid

/-! ### Targets that do not wrap around -/

/-- Nothing about the rectangle is negative. -/
structure Rect.Nonneg (r : Rect) : Prop where
  x : 0 ≤ r.x
  y : 0 ≤ r.y
  width : 0 ≤ r.width
  height : 0 ≤ r.height

lemma Agent.nonneg_new (p : Position) (tileSize : UInt32) :
    (Agent.new p tileSize).solidArea.Nonneg := by
  constructor <;> dsimp only [Agent.new] <;> omega

/-- On this axis there is room for a tile behind the point, or an area that begins `a` pixels behind
it begins on a map. -/
def Roomy (a : ℤ) (tile : ℕ) (i : ℤ) : Prop :=
  (0 ≤ i ∧ i + tile ≤ maxLength) ∨ (0 ≤ i + a ∧ i + a ≤ maxLength)

/-- From a roomy coordinate a step does not wrap around to the map. -/
lemma Roomy.shift_eq {a : ℤ} {tile : ℕ} {i u : ℤ} (h : Roomy a tile i)
    (hu : u = 0 ∨ u = 1 ∨ u = -1) (htile : tile ≤ maxLength)
    (hmap : 0 ≤ shift i (u * tile) + a ∧ shift i (u * tile) + a ≤ maxLength) :
    shift i (u * tile) = i + u * tile := by
  rcases h with ⟨h0, hroom⟩ | ⟨h0, harea⟩
  · refine (isCoordinate_of_natAbs_le ?_).shift_eq
    rcases hu with rfl | rfl | rfl <;> omega
  · -- around the end the area would be far off the map
    have hmax : maxLength = 2147483647 := rfl
    unfold shift at hmap ⊢
    split
    · omega
    · rename_i hne
      rw [if_neg hne] at hmap
      refine wrap_eq_of_near ?_
      rcases hu with rfl | rfl | rfl <;> omega

/-- Both coordinates are roomy. -/
structure Position.HasRoom (p : Position) (area : Rect) (tile : ℕ) : Prop where
  x : Roomy area.x tile p.x
  y : Roomy area.y tile p.y

/-- A rectangle on a map has its edges there. -/
lemma TileMap.edges_of_blocks {m : TileMap} {r : Rect} (h : m.blocks r = false) :
    0 ≤ r.x ∧ r.right ≤ maxLength ∧ 0 ≤ r.y ∧ r.bottom ≤ maxLength := by
  have hcols := (isCoordinate_wrap (cellCoordinate m.columns * m.edge)).le_maxLength
  have hrows := (isCoordinate_wrap (cellCoordinate m.rows * m.edge)).le_maxLength
  have hin : m.bounds.contains r = true := by
    simp only [blocks, Bool.or_eq_false_iff, Bool.not_eq_false'] at h
    exact h.1
  simp only [Rect.contains, Bool.and_eq_true, decide_eq_true_eq] at hin
  obtain ⟨⟨⟨hx, hy⟩, hright⟩, hbottom⟩ := hin
  simp only [bounds, Rect.right, Rect.bottom] at hx hy hright hbottom ⊢
  omega

namespace World

variable {w : World} {p : Position} {d : Direction} {tile : ℕ}

/-- At a free point the solid area of the agent begins on the map. -/
lemma begins_of_free (harea : w.agent.solidArea.Nonneg) (h : Scene.blockedAt w p = false) :
    (0 ≤ p.x + w.agent.solidArea.x ∧ p.x + w.agent.solidArea.x ≤ maxLength) ∧
      0 ≤ p.y + w.agent.solidArea.y ∧ p.y + w.agent.solidArea.y ≤ maxLength := by
  have hmap : w.map.blocks (w.agent.solidArea.translated p.x p.y) = false := by
    have hall : (w.map.blocks (w.agent.solidArea.translated p.x p.y) || w.objects.any _ ||
      w.npcs.any _) = false := h
    exact (Bool.or_eq_false_iff.1 (Bool.or_eq_false_iff.1 hall).1).1
  have hedges := TileMap.edges_of_blocks hmap
  have hwidth := harea.width
  have hheight := harea.height
  simp only [Rect.translated, Rect.right, Rect.bottom] at hedges
  omega

lemma hasRoom_of_free (harea : w.agent.solidArea.Nonneg) (h : Scene.blockedAt w p = false) :
    p.HasRoom w.agent.solidArea tile :=
  ⟨.inr (begins_of_free harea h).1, .inr (begins_of_free harea h).2⟩

/-- A free target does not wrap around. -/
lemma along_eq_of_free (harea : w.agent.solidArea.Nonneg) (htile : tile ≤ maxLength)
    (hroom : p.HasRoom w.agent.solidArea tile)
    (h : Scene.blockedAt w (p.along d tile) = false) : p.along d tile = p.beyond d tile := by
  obtain ⟨hx, hy⟩ := begins_of_free harea h
  exact congrArg₂ Position.mk (hroom.x.shift_eq d.delta_unit.1 htile hx)
    (hroom.y.shift_eq d.delta_unit.2 htile hy)

end World

/-! ### Cells -/

section Cell

variable {m : TileMap} {col row : ℕ}

/-- A cell whose far corner has coordinates has its origin in its corner. -/
lemma TileMap.cellOrigin_of_far (hcol : (col + 1) * pixels m.tileSize ≤ maxLength)
    (hrow : (row + 1) * pixels m.tileSize ≤ maxLength) :
    m.cellOrigin col row = m.corner ⟨col, row⟩ := by
  have hfits : ∀ n : ℕ, (n + 1) * pixels m.tileSize ≤ maxLength → n * m.edge ≤ maxLength := by
    intro n hn
    refine (extent_le n.le_succ).trans ?_
    rw [edge]
    exact_mod_cast hn
  exact cellOrigin_eq_corner (hfits col hcol) (hfits row hrow)

/-- The corners of cells are on the grid. -/
lemma TileMap.offGrid_cellOrigin (hcol : (col + 1) * pixels m.tileSize ≤ maxLength)
    (hrow : (row + 1) * pixels m.tileSize ≤ maxLength) :
    (m.cellOrigin col row).OffGrid (pixels m.tileSize) 0 := by
  rw [cellOrigin_of_far hcol hrow]
  exact ⟨(dvd_mul_left _ _).modEq_zero_int, (dvd_mul_left _ _).modEq_zero_int⟩

/-- Next to them there is room for a tile. -/
lemma TileMap.hasRoom_cellOrigin (hcol : (col + 1) * pixels m.tileSize ≤ maxLength)
    (hrow : (row + 1) * pixels m.tileSize ≤ maxLength) (area : Rect) :
    (m.cellOrigin col row).HasRoom area (pixels m.tileSize) := by
  rw [cellOrigin_of_far hcol hrow]
  rw [Nat.add_mul, Nat.one_mul] at hcol hrow
  refine ⟨.inl ?_, .inl ?_⟩ <;> dsimp only [corner, edge] <;> rw [← Int.natCast_mul] <;> omega

end Cell

/-- A clear among some effects ends a move; nothing else in them does. -/
lemma Scheduler.motion_effects (s : Scheduler) (fx : List Effect) :
    (fx.foldl Effect.apply s).motion = if Effect.clear ∈ fx then none else s.motion := by
  induction fx generalizing s with
  | nil => rfl
  | cons e fx ih =>
    rw [List.foldl_cons, ih]
    cases e with
    | stage a =>
      have hmotion : (Effect.apply s (.stage a)).motion = s.motion := by
        rw [Effect.apply, s.stage_eq]
      simp [hmotion]
    | clear => simp [Effect.apply, clear]

namespace Session

/-- A move that was under way is over after the event, and has not arrived. -/
def CutsShort (s : Session) (e : Event) : Prop :=
  s.scheduler.motion ≠ none ∧ (s.step e).scheduler.motion = none ∧ s.outcome? e ≠ some .arrived

instance (s : Session) (e : Event) : Decidable (s.CutsShort e) :=
  inferInstanceAs (Decidable (_ ∧ _ ∧ _))

/-- The way that a move under way has covered. -/
def covered (s : Session) : ℤ × ℤ :=
  match s.scheduler.motion with
  | none => 0
  | some m => (s.world.agent.position.x - m.origin.x, s.world.agent.position.y - m.origin.y)

lemma motion_submit (s : Session) (line : String) :
    (s.step (.submit line)).scheduler.motion =
      if Effect.clear ∈ Effect.ofLine s.rules (Scene.reading s.world) line then none
      else s.scheduler.motion := by
  simp only [step, submit]
  rw [scheduler_submit, Scheduler.motion_effects]

/-- The ways in which a move is cut short: a tick finds something in the way, or the scheduler is
cleared, from outside or by a line. -/
theorem cutsShort_iff (s : Session) (e : Event) :
    s.CutsShort e ↔
      (∃ now, e = .tick now ∧ (s.tick now).1 = .blocked) ∨
        s.scheduler.motion ≠ none ∧
          (e = .clear ∨ ∃ line, e = .submit line ∧
            Effect.clear ∈ Effect.ofLine s.rules (Scene.reading s.world) line) := by
  cases e with
  | submit line =>
    rw [CutsShort, motion_submit]
    by_cases hclear : Effect.clear ∈ Effect.ofLine s.rules (Scene.reading s.world) line
    · simp [hclear, outcome?]
    · rw [if_neg hclear]
      exact iff_of_false (fun hcut => hcut.1 hcut.2.1) (by simp [hclear])
  | tick now =>
    have hstep := s.scheduler.tick_spec now s.world
    show s.scheduler.motion ≠ none ∧ (s.scheduler.tick now s.world).scheduler.motion = none ∧
      some (s.scheduler.tick now s.world).outcome ≠ some .arrived ↔ _
    have hblocked : (s.tick now).1 = (s.scheduler.tick now s.world).outcome := rfl
    simp only [Event.tick.injEq, exists_eq_left', hblocked]
    generalize s.scheduler.tick now s.world = r at hstep ⊢
    cases hstep with
    | arrive m hm | block m hm | go m hm => simp [hm]
    | idle hm | gated hm | drop _ _ _ hm | start _ _ _ hm | turn _ _ hm | wait _ _ hm
    | print _ _ hm => simp [hm]
  | clear => simp [CutsShort, step, Session.clear, Scheduler.clear, outcome?]
  | setActionDelay | setMoveSpeed | setSpeedLevel | edit =>
    exact iff_of_false (fun hcut => hcut.1 hcut.2.1) (by simp)

/-- What the moves have covered that a run cuts short. -/
def strays : Session → List Event → ℤ × ℤ
  | _, [] => 0
  | s, e :: es => (if s.CutsShort e then s.covered else 0) + strays (s.step e) es

/-- No event of a run cuts a move short. -/
def Uncut : Session → List Event → Prop
  | _, [] => True
  | s, e :: es => ¬s.CutsShort e ∧ Uncut (s.step e) es

/-- The event does not put the agent elsewhere from outside, nor change its solid area. -/
def Event.Still : Event → Prop
  | .edit f => ∀ w, (f w).agent.position = w.agent.position ∧
      (f w).agent.solidArea = w.agent.solidArea
  | _ => True

lemma strays_of_uncut {s : Session} {es : List Event} (h : s.Uncut es) : s.strays es = 0 := by
  induction es generalizing s with
  | nil => rfl
  | cons e es ih => rw [strays, if_neg h.1, ih h.2, add_zero]

/-! ### What an event does to an agent off the grid -/

/-- At rest the agent is off the grid by `q`; a move sets out from a point that is, and leads one
tile away. Wherever it is or goes, a step from there does not wrap around to the map. -/
structure Astray (s : Session) (tile : ℕ) (q : ℤ × ℤ) : Prop where
  stride : s.scheduler.stride = tile
  area : s.world.agent.solidArea.Nonneg
  room : s.world.agent.position.HasRoom s.world.agent.solidArea tile
  rest : s.scheduler.motion = none → s.world.agent.position.OffGrid tile q
  way : ∀ m, s.scheduler.motion = some m → m.origin.OffGrid tile q ∧
    m.target.HasRoom s.world.agent.solidArea tile ∧
      ∃ d : Direction, m.target = m.origin.beyond d tile

/-- Nothing changes the length of a move. -/
lemma stride_step (s : Session) (e : Event) :
    (s.step e).scheduler.stride = s.scheduler.stride := by
  cases e with
  | submit line =>
    refine Scheduler.stride_congr ?_
    simp only [step, submit]
    rw [scheduler_submit, Scheduler.settings_effects]
  | tick now => exact Scheduler.stride_congr (s.scheduler.settings_tick now s.world)
  | clear | setActionDelay | setMoveSpeed | setSpeedLevel | edit => rfl

namespace Astray

variable {s : Session} {tile : ℕ} {q : ℤ × ℤ}

/-- Where the agent is, at rest or on its way. -/
lemma position (h : s.Astray tile q) : s.world.agent.position.OffGrid tile (q + s.covered) := by
  unfold covered
  cases hm : s.scheduler.motion with
  | none => exact (add_zero q).symm ▸ h.rest hm
  | some m => exact (h.way m hm).1.shift s.world.agent.position

/-- An event that leaves the agent where it is, and a move under way unless it cuts it short. -/
lemma settle (h : s.Astray tile q) {e : Event}
    (hmotion : (s.step e).scheduler.motion = s.scheduler.motion ∨
      (s.step e).scheduler.motion = none)
    (hout : s.outcome? e ≠ some .arrived)
    (hpos : (s.step e).world.agent.position = s.world.agent.position)
    (hsolid : (s.step e).world.agent.solidArea = s.world.agent.solidArea) :
    (s.step e).Astray tile (q + if s.CutsShort e then s.covered else 0) := by
  have hstride := (s.stride_step e).trans h.stride
  have harea : (s.step e).world.agent.solidArea.Nonneg := hsolid ▸ h.area
  have hroom : (s.step e).world.agent.position.HasRoom (s.step e).world.agent.solidArea tile := by
    rw [hpos, hsolid]
    exact h.room
  split
  · rename_i hcut
    exact ⟨hstride, harea, hroom, fun _ => hpos ▸ h.position,
      fun m hm => nomatch hcut.2.1.symm.trans hm⟩
  · rename_i hnot
    -- with no move under way there is none to lose
    have hsame : (s.step e).scheduler.motion = s.scheduler.motion := by
      refine hmotion.elim id fun hnone => ?_
      have hrest : s.scheduler.motion = none := not_not.1 fun hm => hnot ⟨hm, hnone, hout⟩
      rw [hnone, hrest]
    rw [add_zero]
    exact ⟨hstride, harea, hroom, fun hm => hpos ▸ h.rest (hsame ▸ hm),
      fun m hm => hsolid ▸ h.way m (hsame ▸ hm)⟩

lemma tick (h : s.Astray tile q) (now : Millis) :
    (s.step (.tick now)).Astray tile
      (q + if s.CutsShort (.tick now) then s.covered else 0) := by
  have hstride := (s.stride_step (.tick now)).trans h.stride
  have hstep := s.scheduler.tick_spec now s.world
  obtain ⟨r, hr⟩ : ∃ r, s.scheduler.tick now s.world = r := ⟨_, rfl⟩
  have hnext : s.step (.tick now) = { s with scheduler := r.scheduler, world := r.world } := by
    rw [← hr]
    rfl
  have hout : s.outcome? (.tick now) = some r.outcome := by
    rw [← hr]
    rfl
  rw [hr] at hstep
  cases hstep with
  | arrive m hm near =>
    obtain ⟨horigin, hroom, d, htarget⟩ := h.way m hm
    have hnot : ¬s.CutsShort (.tick now) := fun hcut => hcut.2.2 hout
    rw [if_neg hnot, add_zero, hnext]
    exact ⟨hnext ▸ hstride, h.area, hroom, fun _ => htarget ▸ horigin.beyond d,
      fun _ hnone => nomatch hnone⟩
  | go m hm far free =>
    have hmotion : (s.step (.tick now)).scheduler.motion = some m :=
      (congrArg (·.scheduler.motion) hnext).trans hm
    have hgoing : (s.step (.tick now)).scheduler.motion ≠ none :=
      hmotion.symm ▸ Option.some_ne_none m
    have hnot : ¬s.CutsShort (.tick now) := fun hcut => hgoing hcut.2.1
    have hsolid : (s.step (.tick now)).world.agent.solidArea = s.world.agent.solidArea :=
      (s.scheduler.sameObstacles_tick now s.world).solidArea
    have hpos : (s.step (.tick now)).world.agent.position = s.scheduler.ahead m s.world := by
      rw [hnext]
      exact Scheduler.position_moveTo _ _ _ _
    rw [if_neg hnot, add_zero]
    refine ⟨hstride, hsolid ▸ h.area, ?_, fun hnone => absurd hnone hgoing,
      fun m' hm' => hsolid ▸ h.way m' (hm.trans (hmotion.symm.trans hm'))⟩
    rw [hpos, hsolid]
    exact World.hasRoom_of_free h.area free
  | start a queue d hm hq gate ha free =>
    have hnot : ¬s.CutsShort (.tick now) := fun hcut => hcut.1 hm
    have hgoal : s.scheduler.goal d (Scene.face s.world d) =
        s.world.agent.position.along d tile := by
      rw [Scheduler.goal_eq_along, h.stride]
      rfl
    rw [if_neg hnot, add_zero, hnext]
    refine ⟨hnext ▸ hstride, h.area, h.room, fun hnone => absurd hnone (Option.some_ne_none _), ?_⟩
    rintro _ ⟨⟩
    have hfree : Scene.blockedAt s.world (s.world.agent.position.along d tile) = false :=
      hgoal ▸ free
    have htile : tile ≤ maxLength := h.stride ▸ pixels_le _
    exact ⟨h.rest hm, World.hasRoom_of_free h.area free, d,
      hgoal.trans (World.along_eq_of_free h.area htile h.room hfree)⟩
  | block m hm far hit =>
    exact h.settle (.inr (congrArg (·.scheduler.motion) hnext)) (by simp [hout])
      (congrArg (·.world.agent.position) hnext) (congrArg (·.world.agent.solidArea) hnext)
  | idle | gated | drop | turn | wait | print =>
    exact h.settle (.inl (congrArg (·.scheduler.motion) hnext)) (by simp [hout])
      (congrArg (·.world.agent.position) hnext) (congrArg (·.world.agent.solidArea) hnext)

lemma step (h : s.Astray tile q) {e : Event} (he : e.Still) :
    (s.step e).Astray tile (q + if s.CutsShort e then s.covered else 0) := by
  cases e with
  | submit line =>
    have hmotion : (s.step (.submit line)).scheduler.motion = s.scheduler.motion ∨
        (s.step (.submit line)).scheduler.motion = none := by
      rw [motion_submit]
      split
      · exact .inr rfl
      · exact .inl rfl
    have hagent : (s.step (.submit line)).world.agent = s.world.agent := by
      simp only [Session.step, submit]
      rw [world_submit]
      split <;> rfl
    exact h.settle hmotion (by simp [outcome?]) (congrArg (·.position) hagent)
      (congrArg (·.solidArea) hagent)
  | tick now => exact h.tick now
  | clear => exact h.settle (.inr rfl) (by simp [outcome?]) rfl rfl
  | setActionDelay | setMoveSpeed | setSpeedLevel =>
    exact h.settle (.inl rfl) (by simp [outcome?]) rfl rfl
  | edit f => exact h.settle (.inl rfl) (by simp [outcome?]) (he s.world).1 (he s.world).2

lemma run (h : s.Astray tile q) {es : List Event} (hes : ∀ e ∈ es, e.Still) :
    (s.run es).Astray tile (q + s.strays es) := by
  induction es generalizing s q with
  | nil => exact (add_zero q).symm ▸ h
  | cons e es ih =>
    obtain ⟨he, hes⟩ := List.forall_mem_cons.1 hes
    rw [strays, ← add_assoc]
    exact ih (h.step he) hes

end Astray

/-- A session that is new with its agent on a cell is on the grid. -/
lemma astray_new {c : Config} {w : World} {col row : ℕ} {s : Session}
    (h : Session.new c w = .ok s) (htile : w.map.tileSize = c.tileSize)
    (harea : w.agent.solidArea.Nonneg) (hstart : w.agent.position = w.map.cellOrigin col row)
    (hcol : (col + 1) * pixels c.tileSize ≤ maxLength)
    (hrow : (row + 1) * pixels c.tileSize ≤ maxLength) : s.Astray (pixels c.tileSize) 0 := by
  obtain ⟨-, -, hgoes⟩ := goesBy_new h
  obtain ⟨-, rfl⟩ := new_eq_ok_iff.1 h
  rw [← htile] at hcol hrow
  refine ⟨congrArg pixels hgoes.tileSize, harea, ?_, fun _ => ?_, fun _ hm => nomatch hm⟩
  · show w.agent.position.HasRoom _ _
    rw [hstart, ← htile]
    exact TileMap.hasRoom_cellOrigin hcol hrow _
  · show w.agent.position.OffGrid _ _
    rw [hstart, ← htile]
    exact TileMap.offGrid_cellOrigin hcol hrow

/-- **Where moves lead**: take a run of a session that is new with its agent on a cell whose far
corner has coordinates, in which the agent is put nowhere from outside. A move leads one tile away
in some direction, and its target does not wrap around. It sets out from, and leads to, a point that
is off the grid by what the moves before it had covered that were cut short, up to whole tiles. So a
coordinate of its target is a multiple of the tile size if and only if that sum is one, and both are
if no move was cut short. -/
theorem target_off_grid {c : Config} {w : World} {col row : ℕ} {s : Session}
    (h : Session.new c w = .ok s) (htile : w.map.tileSize = c.tileSize)
    (harea : w.agent.solidArea.Nonneg) (hstart : w.agent.position = w.map.cellOrigin col row)
    (hcol : (col + 1) * pixels c.tileSize ≤ maxLength)
    (hrow : (row + 1) * pixels c.tileSize ≤ maxLength) {es : List Event}
    (hes : ∀ e ∈ es, e.Still) {m : Motion} (hm : (s.run es).scheduler.motion = some m) :
    let tile := pixels c.tileSize
    let q := s.strays es
    (∃ d : Direction, m.target = m.origin.beyond d tile) ∧
      m.origin.OffGrid tile q ∧ m.target.OffGrid tile q ∧
      ((tile : ℤ) ∣ m.target.x ↔ (tile : ℤ) ∣ q.1) ∧
      ((tile : ℤ) ∣ m.target.y ↔ (tile : ℤ) ∣ q.2) ∧
      (s.Uncut es → (tile : ℤ) ∣ m.target.x ∧ (tile : ℤ) ∣ m.target.y) := by
  intro tile q
  have hrun : (s.run es).Astray tile q :=
    zero_add q ▸ (astray_new h htile harea hstart hcol hrow).run hes
  obtain ⟨horigin, -, d, htarget⟩ := hrun.way m hm
  have hoff : m.target.OffGrid tile q := htarget ▸ horigin.beyond d
  refine ⟨⟨d, htarget⟩, horigin, hoff, hoff.x.dvd_iff, hoff.y.dvd_iff, fun hun => ?_⟩
  have hq : q = 0 := strays_of_uncut hun
  rw [hoff.x.dvd_iff, hoff.y.dvd_iff, hq]
  exact ⟨dvd_zero _, dvd_zero _⟩

open Play (wideConfig)

/-- A field of four by three tiles, with the agent on one inside. -/
def fieldWorld (c : Config) : World :=
  let map := TileMap.ofSize 4 3 c.tileSize
  World.new map (map.cellOrigin 1 1) c

/-- A new session in a field. -/
def fieldSession (c : Config) : Session := ⟨c, c.rules, Scheduler.new c, fieldWorld c⟩

/-- A step that is cleared after two frames, and another one that sets out. -/
def detour : List Event :=
  [.submit "move right", .tick 0, .tick 0, .clear, .submit "move right", .tick 0]

/-- A frame at a higher speed, and a line that clears the step and sets out upwards. -/
def wayBack : List Event := [.setMoveSpeed 5, .tick 0, .submit "clear; move up", .tick 0]

/-- Three pixels off the grid, and five more, which makes a tile. -/
theorem target_off_grid_detour :
    let s := fieldSession wideConfig
    let away : Motion := ⟨⟨11, 8⟩, ⟨19, 8⟩⟩
    let back : Motion := ⟨⟨16, 8⟩, ⟨16, 0⟩⟩
    Session.new wideConfig (fieldWorld wideConfig) = .ok s ∧
      (∀ e ∈ detour ++ wayBack, e.Still) ∧
      (s.run detour).scheduler.motion = some away ∧ ¬(8 : ℤ) ∣ away.target.x ∧
      (s.run (detour ++ wayBack)).scheduler.motion = some back ∧ ¬s.Uncut (detour ++ wayBack) ∧
      (8 : ℤ) ∣ back.target.x ∧ (8 : ℤ) ∣ back.target.y := by
  intro s away back
  have hnew : Session.new wideConfig (fieldWorld wideConfig) = .ok s := rfl
  have hstill : ∀ e ∈ detour ++ wayBack, e.Still := by
    simp [detour, wayBack, Event.Still]
  have haway : (s.run detour).scheduler.motion = some away := by decide +kernel
  have hback : (s.run (detour ++ wayBack)).scheduler.motion = some back := by decide +kernel
  have hcut : (s.run (detour.take 3)).CutsShort .clear := by decide +kernel
  have hstrays : s.strays detour = (3, 0) ∧ s.strays (detour ++ wayBack) = (8, 0) := by
    decide +kernel
  have hstart : (fieldWorld wideConfig).agent.position =
      (fieldWorld wideConfig).map.cellOrigin 1 1 := rfl
  have harea : (fieldWorld wideConfig).agent.solidArea.Nonneg := Agent.nonneg_new _ _
  have hfar : (1 + 1) * pixels wideConfig.tileSize ≤ maxLength := by decide
  obtain ⟨-, -, -, hx, -⟩ := target_off_grid hnew rfl harea hstart hfar hfar
    (fun e he => hstill e (List.mem_append_left _ he)) haway
  obtain ⟨-, -, -, hx', hy', -⟩ := target_off_grid hnew rfl harea hstart hfar hfar hstill hback
  rw [hstrays.1] at hx
  rw [hstrays.2] at hx' hy'
  refine ⟨hnew, hstill, haway, fun h8 => ?_, hback, fun hun => hun.2.2.2.1 hcut,
    hx'.2 (by decide), hy'.2 (by decide)⟩
  exact absurd (hx.1 h8) (by decide)

/-- The first step has been cleared on its way, so the target of the second lies between tiles. -/
theorem target_between_tiles :
    let c : Config := {}
    let s := fieldSession c
    Session.new c (fieldWorld c) = .ok s ∧ s.world.map.tileSize = c.tileSize ∧
      s.world.agent.position = s.world.map.cellOrigin 1 1 ∧
      (s.run detour).scheduler.motion = some ⟨⟨67, 64⟩, ⟨131, 64⟩⟩ ∧
      ¬(c.tileSize.toNat : ℤ) ∣ 131 := by
  intro c s
  exact ⟨rfl, rfl, rfl, by decide +kernel, by decide⟩

end Session

end GridScript
