import GridScript.Proofs.Session.Course
import GridScript.Proofs.World.Obstacles

/-!
Barriers across the way of a move.

A move is checked only where its ticks take the agent, and not at its end, so at a high speed it
passes over what a lower speed runs into. What stops it at every speed up to some bound is a barrier
at least as thick as that bound: so many neighbouring points of the way, all of them blocked. Ahead
of a barrier the agent can neither step over it nor reach the target; and where there is none, legs
that end on free points lead to the target.
-/

namespace GridScript

/-- On the way from `o` to a target `tile` pixels away, the `v` points from the `k`-th on are all
blocked. -/
structure World.Barrier (w : World) (o : Position) (d : Direction) (tile v k : ℕ) : Prop where
  ahead : 0 < k
  inside : k + v ≤ tile
  blocked : ∀ j, k ≤ j → j < k + v → Scene.blockedAt w (o.along d j) = true

namespace Play

/-- The event leaves the obstacles and the place of the agent as they are, and if it is a tick, the
speed that it finds is not above `v`. -/
def Heeds (v : ℕ) (p : Play World) : Event World → Prop
  | .tick _ => p.scheduler.moveSpeed.toNat ≤ v
  | .edit f =>
    Scene.position (f p.world) = Scene.position p.world ∧ p.world.SameObstacles (f p.world)
  | .stage _ | .clear | .setActionDelay _ | .setMoveSpeed _ => True

/-- A run of such events during which a move stays under way. -/
def Keeps (v : ℕ) (m : Motion) : Play World → List (Event World) → Prop
  | p, [] => p.scheduler.motion = some m
  | p, e :: es => p.scheduler.motion = some m ∧ p.Heeds v e ∧ Keeps v m (p.step e) es

/-- The move can end on its target: some such run leads to a tick that arrives. -/
def CanArrive (v : ℕ) (m : Motion) (p : Play World) : Prop :=
  ∃ es now, p.Keeps v m es ∧ (p.run es).Heeds v (.tick now) ∧
    ((p.run es).ticked now).outcome = .arrived

variable {v : ℕ} {m : Motion} {p : Play World}

lemma Keeps.motion {es : List (Event World)} (h : p.Keeps v m es) : p.scheduler.motion = some m := by
  cases es with
  | nil => exact h
  | cons e es => exact h.1

lemma sameObstacles_step {e : Event World} (he : p.Heeds v e) :
    p.world.SameObstacles (p.step e).world := by
  cases e with
  | tick now => exact p.scheduler.sameObstacles_tick now p.world
  | edit f => exact he.2
  | stage | clear | setActionDelay | setMoveSpeed => exact World.SameObstacles.refl _

/-- An event other than a tick is quiet, if the move stays under way. -/
lemma Heeds.quiet {e : Event World} (he : p.Heeds v e) (htick : ∀ now, e ≠ .tick now)
    (hmotion : (p.step e).scheduler.motion = some m) : p.Quiet e := by
  cases e with
  | tick now => exact absurd rfl (htick now)
  | clear => cases hmotion
  | edit f => exact he.1
  | stage | setActionDelay | setMoveSpeed => trivial

section Way

variable {w : World} {o : Position} {d : Direction} {tile n : ℕ}

/-! ### Ahead of a barrier -/

section Ahead

variable {k : ℕ} (hbarrier : w.Barrier o d tile v k) (htile : tile ≤ maxLength)

include hbarrier htile

/-- Ahead of a barrier a tick leaves the agent ahead of it, or ends the move. -/
lemma Going.tick_ahead (h : p.Going o d tile n) (hn : n < k) (hw : w.SameObstacles p.world)
    {now : Millis} (hspeed : p.Heeds v (.tick now)) :
    (p.ticked now).outcome ≠ .arrived ∧
      ((p.step (.tick now)).scheduler.motion ≠ none →
        ∃ x < k, (p.step (.tick now)).Going o d tile x) := by
  have hv : p.scheduler.moveSpeed.toNat ≤ v := hspeed
  have hinside := hbarrier.inside
  have far : n + p.scheduler.moveSpeed.toNat < tile := by omega
  cases hit : Scene.blockedAt p.world (o.along d (n + p.scheduler.moveSpeed.toNat : ℕ)) with
  | true =>
    obtain ⟨hout, hover, -⟩ := h.tick_hit htile far now hit
    exact ⟨by simp [hout], fun hmotion => absurd hover hmotion⟩
  | false =>
    obtain ⟨hout, hgoing⟩ := h.tick_free htile far now hit
    refine ⟨by simp [hout], fun _ => ⟨_, Nat.lt_of_not_le fun hle => ?_, hgoing⟩⟩
    -- a free point is not one of the barrier
    have hblocked := hbarrier.blocked _ hle (by omega)
    rw [hw.blockedAt_eq] at hit
    exact Bool.false_ne_true (hit.symm.trans hblocked)

/-- As long as the move is under way, the agent stays ahead of the barrier. -/
lemma Going.run_ahead (h : p.Going o d tile n) (hn : n < k) (hw : w.SameObstacles p.world)
    {es : List (Event World)} (hes : p.Keeps v m es) :
    w.SameObstacles (p.run es).world ∧ ∃ x < k, (p.run es).Going o d tile x := by
  induction es generalizing p n with
  | nil => exact ⟨hw, n, hn, h⟩
  | cons e es ih =>
    obtain ⟨-, he, hrest⟩ := hes
    have hw' := hw.trans (sameObstacles_step he)
    by_cases htick : ∃ now, e = .tick now
    · obtain ⟨now, rfl⟩ := htick
      obtain ⟨-, hnext⟩ := h.tick_ahead hbarrier htile hn hw he
      obtain ⟨x, hx, hgoing⟩ := hnext (by simp [hrest.motion])
      exact ih hgoing hx hw' hrest
    · have hquiet := he.quiet (not_exists.1 htick) hrest.motion
      obtain ⟨hmotion, hposition⟩ := quiet_step hquiet
      exact ih ⟨hmotion.trans h.motion, hposition.trans h.position⟩ hn hw' hrest

lemma Going.not_canArrive (h : p.Going o d tile 0) (hw : w.SameObstacles p.world) :
    ¬p.CanArrive v m := by
  rintro ⟨es, now, hes, hspeed, harrived⟩
  obtain ⟨hw', x, hx, hgoing⟩ := h.run_ahead hbarrier htile hbarrier.ahead hw hes
  exact (hgoing.tick_ahead hbarrier htile hx hw' hspeed).1 harrived

end Ahead

/-! ### Where there is no barrier -/

/-- The play at another speed. -/
def paced (p : Play World) (speed : ℕ) : Play World := p.step (.setMoveSpeed (UInt32.ofNat speed))

lemma Going.paced (h : p.Going o d tile n) (speed : ℕ) : (p.paced speed).Going o d tile n :=
  ⟨h.motion, h.position⟩

lemma moveSpeed_paced (p : Play World) (speed : ℕ) (hpos : 0 < speed) (hle : speed ≤ maxLength) :
    (p.paced speed).scheduler.moveSpeed.toNat = speed := by
  have hmax : maxLength = 2147483647 := rfl
  have hsize : UInt32.size = 4294967296 := rfl
  have hword : (UInt32.ofNat speed).toNat = speed := UInt32.toNat_ofNat_of_lt (by omega)
  show (atLeastOne (UInt32.ofNat speed)).toNat = speed
  rw [atLeastOne_of_pos (by omega), hword]

/-- A leg that ends on a free point before the target: the speed is set to its length. -/
lemma Going.leg (h : p.Going o d tile n) (htile : tile ≤ maxLength) {j : ℕ} (hn : n < j)
    (hj : j < tile) (hfree : Scene.blockedAt p.world (o.along d j) = false) :
    ((p.paced (j - n)).step (.tick 0)).Going o d tile j := by
  have hspeed := moveSpeed_paced p (j - n) (by omega) (by omega)
  have hcome : n + (p.paced (j - n)).scheduler.moveSpeed.toNat = j := by omega
  obtain ⟨-, hgoing⟩ := (h.paced (j - n)).tick_free htile (by omega) 0 (by rwa [hcome])
  rwa [hcome] at hgoing

/-- What can arrive after a leg of at most `v` pixels can arrive. -/
lemma CanArrive.leg {speed : ℕ} (hpos : 0 < speed) (hle : speed ≤ maxLength) (hv : speed ≤ v)
    (hmotion : p.scheduler.motion = some m)
    (h : CanArrive v m ((p.paced speed).step (.tick 0))) : p.CanArrive v m := by
  obtain ⟨es, now, hes, hlast, harrived⟩ := h
  have hspeed : (p.paced speed).Heeds v (.tick 0) := (moveSpeed_paced p speed hpos hle).trans_le hv
  exact ⟨.setMoveSpeed (UInt32.ofNat speed) :: .tick 0 :: es, now,
    ⟨hmotion, trivial, hmotion, hspeed, hes⟩, hlast, harrived⟩

/-- From so near to the target, one leg of at most `v` pixels arrives. -/
lemma Going.canArrive_near (h : p.Going o d tile n) (htile : tile ≤ maxLength) (hn : n < tile)
    (near : tile ≤ n + v) : p.CanArrive v ⟨o, o.along d tile⟩ := by
  have hspeed := moveSpeed_paced p (tile - n) (by omega) (by omega)
  obtain ⟨harrived, -⟩ := (h.paced (tile - n)).tick_near htile hn.le (by omega) 0
  have hheeds : (p.paced (tile - n)).Heeds v (.tick 0) := hspeed.trans_le (by omega)
  exact ⟨[.setMoveSpeed (UInt32.ofNat (tile - n))], 0, ⟨h.motion, trivial, h.motion⟩, hheeds,
    harrived⟩

/-- If there is no barrier, one of the next `v` points is free unless the target is among them. The
induction is on the pixels that are left. -/
lemma Going.canArrive (hnone : ∀ k, ¬w.Barrier o d tile v k) (htile : tile ≤ maxLength)
    (h : p.Going o d tile n) (hn : n < tile) (hw : w.SameObstacles p.world) :
    p.CanArrive v ⟨o, o.along d tile⟩ := by
  induction hleft : tile - n using Nat.strong_induction_on generalizing p n with
  | _ left ih =>
    rcases Nat.lt_or_ge (n + v) tile with far | near
    · obtain ⟨j, hfirst, hlast, hfree⟩ : ∃ j, n + 1 ≤ j ∧ j < n + 1 + v ∧
          Scene.blockedAt w (o.along d j) = false := by
        by_contra hall
        refine hnone (n + 1) ⟨by omega, by omega, fun j hfirst hlast => ?_⟩
        by_contra hfree
        exact hall ⟨j, hfirst, hlast, Bool.eq_false_iff.2 hfree⟩
      have hgoing := h.leg htile (by omega) (by omega) ((hw.blockedAt_eq _).trans hfree)
      have hw' := hw.trans (Scheduler.sameObstacles_tick (p.paced (j - n)).scheduler 0 p.world)
      have harrive := ih (tile - j) (by omega) hgoing (by omega) hw' rfl
      exact harrive.leg (by omega) (by omega) (by omega) h.motion
    · exact h.canArrive_near htile hn near

end Way

/-- The play in which a tick has just started a move. -/
lemma going_of_start (c : Config) (w : World) (es : List (Event World)) {now : Millis}
    {d : Direction} (hstart : (((start c w).run es).ticked now).outcome = .executed (.step d)) :
    let p := ((start c w).run es).step (.tick now)
    0 < p.scheduler.stride ∧ p.Going (Scene.position p.world) d p.scheduler.stride 0 := by
  intro p
  have hsound : p.scheduler.Sound :=
    sound_handle (sound_run (p := start c w) (Scheduler.sound_new c) es) (.event (.tick now))
  have hstride : p.scheduler.stride = ((start c w).run es).scheduler.stride :=
    Scheduler.stride_congr (Scheduler.settings_tick _ now _)
  rw [hstride]
  exact ⟨hstride ▸ hsound.stride, going_of_executed hstart⟩

/-- **What stops a move at every speed up to a bound**: let a tick start a move in some state of
some scheduler, and let nobody touch the obstacles or the place of the agent from then on. If `v`
neighbouring points strictly between its origin and its target are all blocked, the move does not
end on its target as long as no tick finds a speed above `v`: whatever else happens while it is
under way, the agent stays ahead of these points. If there are no such points, some speeds up to `v`
lead it to its target. -/
theorem canArrive_iff_no_barrier (c : Config) (w : World) (es : List (Event World)) {now : Millis}
    {d : Direction} (hstart : (((start c w).run es).ticked now).outcome = .executed (.step d)) :
    let p := ((start c w).run es).step (.tick now)
    let o := Scene.position p.world
    let tile := p.scheduler.stride
    let m : Motion := ⟨o, o.along d tile⟩
    p.scheduler.motion = some m ∧
      (∀ v k, p.world.Barrier o d tile v k → ∀ fs, p.Keeps v m fs →
        (∀ t, (p.run fs).Heeds v (.tick t) → ((p.run fs).ticked t).outcome ≠ .arrived) ∧
          ∃ x < k, Scene.position (p.run fs).world = o.along d (x : ℕ)) ∧
      ∀ v, p.CanArrive v m ↔ ∀ k, ¬p.world.Barrier o d tile v k := by
  intro p o tile m
  obtain ⟨hlength, hgoing⟩ := going_of_start c w es hstart
  have htile : tile ≤ maxLength := pixels_le _
  have hsame := World.SameObstacles.refl p.world
  refine ⟨hgoing.motion, fun v k hbarrier fs hfs => ?_, fun v => ⟨fun harrive k hbarrier =>
    hgoing.not_canArrive hbarrier htile hsame harrive, fun hnone =>
    hgoing.canArrive hnone htile hlength hsame⟩⟩
  obtain ⟨hw, x, hx, hcome⟩ := hgoing.run_ahead hbarrier htile hbarrier.ahead hsame hfs
  exact ⟨fun t ht => (hcome.tick_ahead hbarrier htile hx hw ht).1, x, hx, hcome.position⟩

/-- A map with a post between the cell of the agent and the next. -/
def postWorld : World :=
  (World.new (TileMap.ofSize 4 3 64) ⟨64, 64⟩ {}).addObject ⟨"post", ⟨110, 64, 20, 64⟩, true⟩

/-- A step to the right at some speed, just staged. -/
def towardsPost (speed : UInt32) : Play World :=
  (start { moveSpeed := speed } postWorld).run [.stage (.step .right)]

/-- Some point between the origin and the target is blocked, and a fast move arrives all the same. -/
theorem arrives_behind_post :
    ((towardsPost 64).ticked 0).outcome = .executed (.step .right) ∧
      ((towardsPost 64).step (.tick 0)).scheduler.stride = 64 ∧
      Scene.blockedAt ((towardsPost 64).step (.tick 0)).world
        ((⟨64, 64⟩ : Position).along .right 32) = true ∧
      (((towardsPost 64).step (.tick 0)).ticked 0).outcome = .arrived ∧
      (((towardsPost 64).step (.tick 0)).ticked 0).world.agent.position = ⟨128, 64⟩ := by
  decide +kernel

/-- The post blocks forty-one points of the way, from the twelfth to the fifty-second. -/
theorem canArrive_iff_no_barrier_post :
    ((towardsPost 3).ticked 0).outcome = .executed (.step .right) ∧
      ((towardsPost 3).step (.tick 0)).world.Barrier ⟨64, 64⟩ .right 64 41 12 ∧
      ¬((towardsPost 3).step (.tick 0)).CanArrive 41 ⟨⟨64, 64⟩, ⟨128, 64⟩⟩ ∧
      ((towardsPost 3).step (.tick 0)).CanArrive 42 ⟨⟨64, 64⟩, ⟨128, 64⟩⟩ := by
  have hstart : ((towardsPost 3).ticked 0).outcome = .executed (.step .right) := by decide +kernel
  have hpoints : ∀ j : ℕ, j < 53 → 12 ≤ j →
      Scene.blockedAt ((towardsPost 3).step (.tick 0)).world
        ((⟨64, 64⟩ : Position).along .right j) = true := by
    decide +kernel
  have hbarrier : ((towardsPost 3).step (.tick 0)).world.Barrier ⟨64, 64⟩ .right 64 41 12 :=
    ⟨by decide, by decide, fun j hfirst hlast => hpoints j hlast hfirst⟩
  have hnone : ∀ k, ¬((towardsPost 3).step (.tick 0)).world.Barrier ⟨64, 64⟩ .right 64 42 k := by
    -- so long a stretch holds the last point before the post or the first one behind it
    rintro k ⟨hahead, hinside, hblocked⟩
    rcases Nat.lt_or_ge 11 k with hk | hk
    · exact absurd (hblocked 53 (by omega) (by omega)) (by decide +kernel)
    · exact absurd (hblocked 11 hk (by omega)) (by decide +kernel)
  have hplace : Scene.position ((towardsPost 3).step (.tick 0)).world = ⟨64, 64⟩ := by
    decide +kernel
  have hstride : ((towardsPost 3).step (.tick 0)).scheduler.stride = 64 := by decide +kernel
  have htarget : (⟨64, 64⟩ : Position).along .right (64 : ℕ) = ⟨128, 64⟩ := by decide +kernel
  obtain ⟨-, -, hiff⟩ :=
    canArrive_iff_no_barrier { moveSpeed := 3 } postWorld [.stage (.step .right)] hstart
  rw [← towardsPost, hplace, hstride, htarget] at hiff
  exact ⟨hstart, hbarrier, fun harrive => (hiff 41).1 harrive 12 hbarrier, (hiff 42).2 hnone⟩

end Play

end GridScript
