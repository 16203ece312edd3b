import GridScript.Proofs.Session.Consistency
import Mathlib.Algebra.BigOperators.Group.Finset.Basic

/-!
The course of a move.

A move sets out for the next tile and takes a tick for each leg of its way. The speed may be another
at each of these ticks: the agent gets as far as the speeds so far add up to, on the line from where
it set out, until the next leg would reach the target, where it arrives, or something is in the way,
where it stops.
-/

namespace GridScript

/-- A tick of a move, and what happens before it. -/
structure Leg (σ : Type) where
  meanwhile : List (Event σ)
  now : Millis

/-- A speed below some length counts in full. -/
lemma Scheduler.pace_of_lt {s : Scheduler} {n : ℕ} (hn : n ≤ maxLength)
    (h : s.moveSpeed.toNat < n) : s.pace = s.moveSpeed.toNat :=
  Nat.min_eq_left (by omega)

namespace Play

variable {σ : Type} [Scene σ]

/-- The event leaves the agent where it is and the move under way; anything else may change. -/
def Quiet (p : Play σ) : Event σ → Prop
  | .tick _ | .clear => False
  | .edit f => Scene.position (f p.world) = Scene.position p.world
  | .stage _ | .setActionDelay _ | .setMoveSpeed _ => True

/-- Every event of a run is quiet when it happens. -/
def QuietRun : Play σ → List (Event σ) → Prop
  | _, [] => True
  | p, e :: es => p.Quiet e ∧ QuietRun (p.step e) es

/-- The play after so many legs. -/
def after (p : Play σ) (legs : ℕ → Leg σ) : ℕ → Play σ
  | 0 => p
  | n + 1 => ((after p legs n).run (legs n).meanwhile).step (.tick (legs n).now)

section Legs

variable (p : Play σ) (legs : ℕ → Leg σ) (n : ℕ)

/-- The play as the tick of a leg finds it. Legs count from zero. -/
def atTick : Play σ := (p.after legs n).run (legs n).meanwhile

/-- What the tick of a leg does. -/
def outcomeAt : Outcome := ((p.atTick legs n).ticked (legs n).now).outcome

/-- The move speed that is set at the tick of a leg. -/
def speedAt : ℕ := (p.atTick legs n).scheduler.moveSpeed.toNat

/-- What the speeds of the first legs add up to. -/
def way : ℕ := ∑ i ∈ Finset.range n, p.speedAt legs i

/-- Something is in the way where the speeds would have taken the agent by the tick of a leg. -/
def HitAt (o : Position) (d : Direction) : Prop :=
  Scene.blockedAt (p.atTick legs n).world (o.along d (p.way legs (n + 1))) = true

instance (o : Position) (d : Direction) : Decidable (p.HitAt legs n o d) :=
  inferInstanceAs (Decidable (_ = true))

/-- The ticks of the first legs take the agent on, as far as the speeds add up to. -/
def Advances (o : Position) (d : Direction) : Prop :=
  ∀ i < n, p.outcomeAt legs i = .moved ∧
    Scene.position (p.after legs (i + 1)).world = o.along d (p.way legs (i + 1))

lemma after_succ : p.after legs (n + 1) = (p.atTick legs n).step (.tick (legs n).now) := rfl

@[simp] lemma way_zero : p.way legs 0 = 0 := rfl

lemma way_succ : p.way legs (n + 1) = p.way legs n + p.speedAt legs n := Finset.sum_range_succ _ _

end Legs

/-! ### Between the ticks -/

section Quiet

variable {p : Play σ}

lemma quiet_step {e : Event σ} (he : p.Quiet e) :
    (p.step e).scheduler.motion = p.scheduler.motion ∧
      Scene.position (p.step e).world = Scene.position p.world := by
  cases e with
  | stage a =>
    have hmotion := congrArg Scheduler.motion (p.scheduler.stage_eq a)
    exact ⟨hmotion, rfl⟩
  | tick | clear => exact he.elim
  | edit f => exact ⟨rfl, he⟩
  | setActionDelay | setMoveSpeed => exact ⟨rfl, rfl⟩

lemma quiet_run {es : List (Event σ)} (hes : p.QuietRun es) :
    (p.run es).scheduler.motion = p.scheduler.motion ∧
      Scene.position (p.run es).world = Scene.position p.world := by
  induction es generalizing p with
  | nil => exact ⟨rfl, rfl⟩
  | cons e es ih =>
    obtain ⟨hmotion, hposition⟩ := quiet_step hes.1
    obtain ⟨hmotion', hposition'⟩ := ih hes.2
    exact ⟨hmotion'.trans hmotion, hposition'.trans hposition⟩

lemma sound_run (h : p.scheduler.Sound) (es : List (Event σ)) : (p.run es).scheduler.Sound :=
  run_inv (P := fun p => p.scheduler.Sound) (fun _ e hp => sound_handle hp (.event e)) h es

lemma sound_after (h : p.scheduler.Sound) (legs : ℕ → Leg σ) (n : ℕ) :
    (p.after legs n).scheduler.Sound := by
  induction n with
  | zero => exact h
  | succ n ih => exact sound_handle (sound_run ih (legs n).meanwhile) (.event (.tick (legs n).now))

end Quiet

/-! ### A tick -/

/-- A move from `o` has come so many pixels far. -/
structure Going (p : Play σ) (o : Position) (d : Direction) (tile n : ℕ) : Prop where
  motion : p.scheduler.motion = some ⟨o, o.along d tile⟩
  position : Scene.position p.world = o.along d n

namespace Going

variable {p : Play σ} {o : Position} {d : Direction} {tile n : ℕ}

lemma quiet (h : p.Going o d tile n) {es : List (Event σ)} (hes : p.QuietRun es) :
    (p.run es).Going o d tile n :=
  ⟨(quiet_run hes).1.trans h.motion, (quiet_run hes).2.trans h.position⟩

/-- The target lies straight ahead. -/
lemma target_eq (h : p.Going o d tile n) (hn : n ≤ tile) :
    o.along d tile = (Scene.position p.world).along d (tile - n : ℤ) := by
  rw [h.position, Position.along_along _ _ (by omega) (by omega), add_sub_cancel]

lemma distance_eq (h : p.Going o d tile n) (htile : tile ≤ maxLength) (hn : n ≤ tile) :
    Scheduler.distance ⟨o, o.along d tile⟩ p.world = tile - n := by
  rw [Scheduler.distance_of_along (h.target_eq hn) (by omega) (by omega)]
  omega

section Far

variable (h : p.Going o d tile n) (htile : tile ≤ maxLength)
  (far : n + p.scheduler.moveSpeed.toNat < tile)

include h htile far

lemma pace_lt : p.scheduler.pace < Scheduler.distance ⟨o, o.along d tile⟩ p.world := by
  rw [Scheduler.pace_of_lt htile (by omega), h.distance_eq htile (by omega)]
  omega

lemma ahead_eq : p.scheduler.ahead ⟨o, o.along d tile⟩ p.world =
    o.along d (n + p.scheduler.moveSpeed.toNat : ℕ) := by
  have hpace := Scheduler.pace_of_lt (s := p.scheduler) htile (by omega)
  rw [Scheduler.ahead_of_along (h.target_eq (by omega)) (by omega) (by omega), hpace, h.position,
    Position.along_along _ _ (by omega) (by omega), Nat.cast_add]

/-- If nothing is in the way, a tick takes the agent on. -/
lemma tick_free [Scene.Standing σ] (now : Millis)
    (free : Scene.blockedAt p.world (o.along d (n + p.scheduler.moveSpeed.toNat : ℕ)) = false) :
    (p.ticked now).outcome = .moved ∧
      (p.step (.tick now)).Going o d tile (n + p.scheduler.moveSpeed.toNat) := by
  have hahead := h.ahead_eq htile far
  have htick : p.ticked now = _ :=
    (Scheduler.Tick.go _ h.motion (h.pace_lt htile far) (hahead ▸ free)).tick_eq
  rw [hahead] at htick
  refine ⟨congrArg Ticked.outcome htick, ?_, ?_⟩
  · exact (congrArg (·.scheduler.motion) htick).trans h.motion
  · exact (congrArg (fun r => Scene.position r.world) htick).trans
      (Scheduler.standing_moveTo _ _ _ _)

/-- If something is in the way, a tick stops the move. -/
lemma tick_hit (now : Millis)
    (hit : Scene.blockedAt p.world (o.along d (n + p.scheduler.moveSpeed.toNat : ℕ)) = true) :
    (p.ticked now).outcome = .blocked ∧ (p.step (.tick now)).scheduler.motion = none ∧
      Scene.position (p.step (.tick now)).world = o.along d n := by
  have htick : p.ticked now = _ :=
    (Scheduler.Tick.block _ h.motion (h.pace_lt htile far) (h.ahead_eq htile far ▸ hit)).tick_eq
  refine ⟨congrArg Ticked.outcome htick, congrArg (·.scheduler.motion) htick, ?_⟩
  exact (congrArg (fun r => Scene.position r.world) htick).trans h.position

end Far

/-- If the speed reaches the target, the agent arrives, whatever is in the way. -/
lemma tick_near [Scene.Standing σ] (h : p.Going o d tile n) (htile : tile ≤ maxLength)
    (hn : n ≤ tile) (near : tile ≤ n + p.scheduler.moveSpeed.toNat) (now : Millis) :
    (p.ticked now).outcome = .arrived ∧ (p.step (.tick now)).scheduler.motion = none ∧
      Scene.position (p.step (.tick now)).world = o.along d tile := by
  have hpace : Scheduler.distance ⟨o, o.along d tile⟩ p.world ≤ p.scheduler.pace := by
    rw [h.distance_eq htile hn, Scheduler.pace, pixels]
    omega
  have htick : p.ticked now = _ := (Scheduler.Tick.arrive _ h.motion hpace).tick_eq
  refine ⟨congrArg Ticked.outcome htick, congrArg (·.scheduler.motion) htick, ?_⟩
  exact (congrArg (fun r => Scene.position r.world) htick).trans
    (Scene.Standing.position_place _ _)

end Going

/-! ### A run -/

section Legs

variable {p : Play σ} {legs : ℕ → Leg σ} {o : Position} {d : Direction} {tile : ℕ}

/-- While nothing is in the way and the speeds do not reach the target, the agent gets on. -/
lemma going_after [Scene.Standing σ] (h : p.Going o d tile 0) (htile : tile ≤ maxLength)
    (hlegs : ∀ n, (p.after legs n).QuietRun (legs n).meanwhile) {n : ℕ}
    (hfree : ∀ i < n, p.way legs (i + 1) < tile ∧ ¬p.HitAt legs i o d) :
    p.Advances legs n o d ∧ (p.after legs n).Going o d tile (p.way legs n) := by
  induction n with
  | zero => exact ⟨fun _ hi => absurd hi (Nat.not_lt_zero _), h⟩
  | succ n ih =>
    obtain ⟨hmoved, hgoing⟩ := ih fun i hi => hfree i (by omega)
    obtain ⟨far, free⟩ := hfree n (Nat.lt_succ_self n)
    rw [HitAt, Bool.not_eq_true, way_succ] at free
    rw [way_succ] at far
    obtain ⟨hout, hnext⟩ := (hgoing.quiet (hlegs n)).tick_free htile far (legs n).now free
    have hafter : (p.after legs (n + 1)).Going o d tile (p.way legs (n + 1)) := by
      rw [after_succ, way_succ]
      exact hnext
    refine ⟨fun i hi => ?_, hafter⟩
    rcases Nat.lt_succ_iff_lt_or_eq.1 hi with hi | rfl
    · exact hmoved i hi
    · exact ⟨hout, hafter.position⟩

/-- As long as a move is under way, the agent is on its way to the target, and when the move is over
the agent is somewhere on that way. -/
lemma going_or_over [Scene.Standing σ] (h : p.Going o d tile 0) (htile : tile ≤ maxLength)
    (hlegs : ∀ n, (p.after legs n).QuietRun (legs n).meanwhile) {n : ℕ}
    (hmotion : ∀ i < n, (p.atTick legs i).scheduler.motion ≠ none) :
    (∃ x ≤ tile, (p.after legs n).Going o d tile x) ∨
      (p.after legs n).scheduler.motion = none ∧
        ∃ x ≤ tile, Scene.position (p.after legs n).world = o.along d (x : ℕ) := by
  induction n with
  | zero => exact .inl ⟨0, Nat.zero_le _, h⟩
  | succ n ih =>
    rcases ih fun i hi => hmotion i (by omega) with ⟨x, hx, hgoing⟩ | ⟨hover, -⟩
    · have htick := hgoing.quiet (hlegs n)
      rcases Nat.lt_or_ge (x + p.speedAt legs n) tile with far | near
      · cases hit : Scene.blockedAt (p.atTick legs n).world
            (o.along d (x + p.speedAt legs n : ℕ)) with
        | true =>
          obtain ⟨-, hover, hpos⟩ := htick.tick_hit htile far (legs n).now hit
          exact .inr ⟨hover, x, hx, hpos⟩
        | false =>
          obtain ⟨-, hnext⟩ := htick.tick_free htile far (legs n).now hit
          exact .inl ⟨_, far.le, hnext⟩
      · obtain ⟨-, hover, hpos⟩ := htick.tick_near htile hx near (legs n).now
        exact .inr ⟨hover, tile, le_rfl, hpos⟩
    · -- a move that is over does not start again without a tick
      exact absurd ((quiet_run (hlegs n)).1.trans hover) (hmotion n (Nat.lt_succ_self n))

lemma speedAt_pos (h : p.scheduler.Sound) (legs : ℕ → Leg σ) (n : ℕ) : 0 < p.speedAt legs n :=
  (sound_run (sound_after h legs n) (legs n).meanwhile).moveSpeed_pos

lemma way_strictMono (h : p.scheduler.Sound) (legs : ℕ → Leg σ) : StrictMono (p.way legs) :=
  strictMono_nat_of_lt_succ fun n => by
    rw [way_succ]
    have := speedAt_pos h legs n
    omega

/-- Some leg is the first to reach the target. -/
lemma exists_last_leg (h : p.scheduler.Sound) (legs : ℕ → Leg σ) (htile : 0 < tile) :
    ∃ n, IsLeast {k | tile ≤ p.way legs k} (n + 1) := by
  have hex : ∃ k, tile ≤ p.way legs k := ⟨tile, (way_strictMono h legs).le_apply⟩
  obtain ⟨n, hn⟩ : ∃ n, Nat.find hex = n + 1 := by
    refine Nat.exists_eq_succ_of_ne_zero fun h0 => ?_
    have hreach : tile ≤ p.way legs (Nat.find hex) := Nat.find_spec hex
    rw [h0, way_zero] at hreach
    omega
  exact ⟨n, hn ▸ Nat.find_spec hex, fun k hk => hn ▸ Nat.find_min' hex hk⟩

lemma way_eq_mul {n s : ℕ} (h : ∀ i < n, p.speedAt legs i = s) : p.way legs n = s * n := by
  rw [way, Finset.sum_congr rfl fun i hi => h i (Finset.mem_range.1 hi), Finset.sum_const,
    Finset.card_range, smul_eq_mul, Nat.mul_comm]

section LastLeg

variable {n : ℕ} (hlast : IsLeast {k | tile ≤ p.way legs k} (n + 1))

include hlast

/-- Before the last leg, the speeds do not reach the target. -/
lemma way_lt_of_isLeast {j : ℕ} (hj : j ≤ n) : p.way legs j < tile :=
  Nat.lt_of_not_le fun hle => absurd (hlast.2 hle) (by omega)

/-- At a constant speed, the last leg is where the ceiling of the length over the speed says. -/
lemma last_leg_eq_ceilDiv (h : p.scheduler.Sound) {v : ℕ} (hv : ∀ j ≤ n, p.speedAt legs j = v) :
    n + 1 = tile ⌈/⌉ v := by
  have hpos : 0 < v := hv 0 (Nat.zero_le n) ▸ speedAt_pos h legs 0
  have hway : ∀ k ≤ n + 1, p.way legs k = v * k := fun k hk =>
    way_eq_mul fun i hi => hv i (by omega)
  have hreach : tile ≤ v * (n + 1) := hway (n + 1) le_rfl ▸ hlast.1
  have hless : v * n < tile := hway n (Nat.le_succ n) ▸ way_lt_of_isLeast hlast le_rfl
  refine le_antisymm (Nat.lt_of_not_le fun hle => ?_) ((ceilDiv_le_iff_le_mul hpos).2 hreach)
  exact absurd ((ceilDiv_le_iff_le_mul hpos).1 hle) (Nat.not_le_of_lt hless)

variable [Scene.Standing σ] (h : p.Going o d tile 0) (htile : tile ≤ maxLength)
  (hlegs : ∀ n, (p.after legs n).QuietRun (legs n).meanwhile)

include h htile hlegs

/-- If nothing is in the way before the last leg, the agent arrives by it. -/
lemma arrives (hfree : ∀ j < n, ¬p.HitAt legs j o d) :
    p.Advances legs n o d ∧ p.outcomeAt legs n = .arrived ∧
      Scene.position (p.after legs (n + 1)).world = o.along d tile ∧
      (p.after legs (n + 1)).scheduler.motion = none := by
  obtain ⟨hmoved, hcome⟩ := going_after h htile hlegs fun i hi =>
    ⟨way_lt_of_isLeast hlast hi, hfree i hi⟩
  have hreach : tile ≤ p.way legs n + p.speedAt legs n := way_succ p legs n ▸ hlast.1
  obtain ⟨hout, hover, hpos⟩ := (hcome.quiet (hlegs n)).tick_near htile
    (way_lt_of_isLeast hlast le_rfl).le hreach (legs n).now
  exact ⟨hmoved, hout, hpos, hover⟩

/-- If something is in the way at an earlier leg and not before, the agent stops there. -/
lemma stops {j : ℕ} (hj : j < n) (hhit : p.HitAt legs j o d)
    (hfree : ∀ i < j, ¬p.HitAt legs i o d) :
    p.Advances legs j o d ∧ p.outcomeAt legs j = .blocked ∧
      Scene.position (p.after legs (j + 1)).world = o.along d (p.way legs j) ∧
      (p.after legs (j + 1)).scheduler.motion = none := by
  obtain ⟨hmoved, hcome⟩ := going_after h htile hlegs fun i hi =>
    ⟨way_lt_of_isLeast hlast (by omega : i + 1 ≤ n), hfree i hi⟩
  have far : p.way legs j + p.speedAt legs j < tile :=
    way_succ p legs j ▸ way_lt_of_isLeast hlast hj
  rw [HitAt, way_succ] at hhit
  obtain ⟨hout, hover, hpos⟩ := (hcome.quiet (hlegs j)).tick_hit htile far (legs j).now hhit
  exact ⟨hmoved, hout, hpos, hover⟩

end LastLeg

end Legs

/-- A tick that reports the release of a step has started its move. -/
lemma going_of_executed {s : Scheduler} {now : Millis} {w : σ} {d : Direction}
    (h : (s.tick now w).outcome = .executed (.step d)) :
    Going ⟨(s.tick now w).scheduler, (s.tick now w).world⟩
      (Scene.position (s.tick now w).world) d s.stride 0 := by
  have hstep := s.tick_spec now w
  generalize s.tick now w = r at hstep h ⊢
  cases hstep with
  | start a queue e =>
    obtain rfl : e = d := Action.step.inj (Outcome.executed.inj h)
    exact ⟨rfl, (Position.along_zero _ _).symm⟩
  | arrive | block | go | idle | gated | drop | turn | wait | print => cases h

/-- **The course of a move**: let a tick start a move of some scheduler, from `o` in direction `d`,
and let the ticks of its legs follow, each at the speed that is set by then, with nothing but quiet
events between them. Some leg is the first by which the speeds reach the tile that is the length of
the move. If nothing is in the way before, the ticks up to it move the agent on to where the speeds
add up to, and its own tick arrives at the target; at a constant speed `v` this takes the ceiling of
the length over `v`. At the first leg before it at which something is in the way, the move is over
and the agent stays where it is. In any case the agent never leaves the way to the target. A way
that leads off one end of the coordinates comes back at the other; any other way is straight. -/
theorem course_of_executed [Scene.Standing σ] (c : Config) (w : σ) (es : List (Event σ))
    {now : Millis} {d : Direction}
    (hstart : (((start c w).run es).ticked now).outcome = .executed (.step d))
    {legs : ℕ → Leg σ}
    (hlegs : ∀ n, ((((start c w).run es).step (.tick now)).after legs n).QuietRun
      (legs n).meanwhile) :
    let p := ((start c w).run es).step (.tick now)
    let o := Scene.position p.world
    let tile := p.scheduler.stride
    p.scheduler.motion = some ⟨o, o.along d tile⟩ ∧
      ∃ n, IsLeast {k | tile ≤ p.way legs k} (n + 1) ∧
        ((∀ j < n, ¬p.HitAt legs j o d) →
          p.Advances legs n o d ∧ p.outcomeAt legs n = .arrived ∧
            Scene.position (p.after legs (n + 1)).world = o.along d tile ∧
            (p.after legs (n + 1)).scheduler.motion = none) ∧
        (∀ v, (∀ j ≤ n, p.speedAt legs j = v) → n + 1 = tile ⌈/⌉ v) ∧
        (∀ j < n, p.HitAt legs j o d → (∀ i < j, ¬p.HitAt legs i o d) →
          p.Advances legs j o d ∧ p.outcomeAt legs j = .blocked ∧
            Scene.position (p.after legs (j + 1)).world = o.along d (p.way legs j) ∧
            (p.after legs (j + 1)).scheduler.motion = none) ∧
        (∀ j, (∀ i < j, (p.atTick legs i).scheduler.motion ≠ none) →
          ∃ x ≤ tile, Scene.position (p.after legs j).world = o.along d (x : ℕ)) ∧
        (o.InRange → (o.beyond d tile).InRange →
          ∀ x ≤ tile, o.along d (x : ℕ) = o.beyond d (x : ℕ)) := by
  intro p o tile
  have hsound : p.scheduler.Sound :=
    sound_handle (sound_run (p := start c w) (Scheduler.sound_new c) es) (.event (.tick now))
  have htile : tile ≤ maxLength := pixels_le _
  have hgoing : p.Going o d tile 0 := by
    have hstride : tile = ((start c w).run es).scheduler.stride :=
      Scheduler.stride_congr (Scheduler.settings_tick _ now _)
    rw [hstride]
    exact going_of_executed hstart
  have hlength : 0 < tile := hsound.stride
  obtain ⟨n, hlast⟩ := exists_last_leg hsound legs hlength
  refine ⟨hgoing.motion, n, hlast, fun hfree => arrives hlast hgoing htile hlegs hfree,
    fun v hv => last_leg_eq_ceilDiv hlast hsound hv,
    fun j hj hhit hfree => stops hlast hgoing htile hlegs hj hhit hfree, fun j hj => ?_,
    fun horigin htarget x hx => ?_⟩
  · rcases going_or_over hgoing htile hlegs hj with ⟨x, hx, hcome⟩ | ⟨-, hplace⟩
    · exact ⟨x, hx, hcome.position⟩
    · exact hplace
  · exact Position.along_eq (Position.inRange_beyond horigin htarget (by omega) (by omega))

/-- Tiles of eight pixels, three pixels a tick, and no delay. -/
def wideConfig : Config := { tileSize := 8, moveSpeed := 3, actionDelay := 0 }

/-- A step to the right in a row of three tiles, just released. -/
def setOut : Play World :=
  ((start wideConfig (World.new (TileMap.ofSize 3 1 8) ⟨0, 0⟩ wideConfig)).run
    [.stage (.step .right)]).step (.tick 0)

/-- Three pixels, four, and then one a tick, with a change of the world before the second tick. -/
def hurried (f : World → World) : ℕ → Leg World
  | 0 => ⟨[], 0⟩
  | 1 => ⟨[.setMoveSpeed 4, .edit f], 0⟩
  | _ => ⟨[.setMoveSpeed 1], 0⟩

/-- Nothing changes, and the agent arrives; the tile ahead turns solid, and the agent stops. -/
theorem course_of_executed_wide :
    setOut.scheduler.motion = some ⟨⟨0, 0⟩, ⟨8, 0⟩⟩ ∧
      (setOut.outcomeAt (hurried id) 0 = .moved ∧ setOut.outcomeAt (hurried id) 1 = .moved ∧
        setOut.outcomeAt (hurried id) 2 = .arrived ∧
        Scene.position (setOut.after (hurried id) 3).world = ⟨8, 0⟩) ∧
      setOut.outcomeAt (hurried (·.setTile 1 0 3)) 0 = .moved ∧
        setOut.outcomeAt (hurried (·.setTile 1 0 3)) 1 = .blocked ∧
        Scene.position (setOut.after (hurried (·.setTile 1 0 3)) 2).world = ⟨3, 0⟩ := by
  have hstart : (((start wideConfig (World.new (TileMap.ofSize 3 1 8) ⟨0, 0⟩ wideConfig)).run
      [.stage (.step .right)]).ticked 0).outcome = .executed (.step .right) := by decide +kernel
  have hfree : ∀ n, (setOut.after (hurried id) n).QuietRun (hurried id n).meanwhile := fun n =>
    match n with
    | 0 => trivial
    | 1 => ⟨trivial, rfl, trivial⟩
    | _ + 2 => ⟨trivial, trivial⟩
  have hhit : ∀ n, (setOut.after (hurried (·.setTile 1 0 3)) n).QuietRun
      (hurried (·.setTile 1 0 3) n).meanwhile := fun n =>
    match n with
    | 0 => trivial
    | 1 => ⟨trivial, rfl, trivial⟩
    | _ + 2 => ⟨trivial, trivial⟩
  obtain ⟨hmotion, n, hlast, harrive, -⟩ := course_of_executed _ _ _ hstart hfree
  obtain ⟨-, k, hlast', -, -, hstop, -⟩ := course_of_executed _ _ _ hstart hhit
  -- the speeds add up to three, seven and eight pixels
  have hn : n = 2 := by
    have hle : n + 1 ≤ 3 := hlast.2
      (show setOut.scheduler.stride ≤ setOut.way (hurried id) 3 by decide +kernel)
    have hreach : setOut.scheduler.stride ≤ setOut.way (hurried id) (n + 1) := hlast.1
    match n with
    | 0 => exact absurd hreach (by decide +kernel)
    | 1 => exact absurd hreach (by decide +kernel)
    | 2 => rfl
    | n + 3 => omega
  have hk : 1 < k := by
    have hreach : setOut.scheduler.stride ≤ setOut.way (hurried (·.setTile 1 0 3)) (k + 1) :=
      hlast'.1
    match k with
    | 0 => exact absurd hreach (by decide +kernel)
    | 1 => exact absurd hreach (by decide +kernel)
    | k + 2 => omega
  subst hn
  obtain ⟨hmoved, harrived, hpos, -⟩ := harrive fun j hj => by
    match j with
    | 0 => decide +kernel
    | 1 => decide +kernel
  obtain ⟨hmoved', hblocked, hpos', -⟩ := hstop 1 hk (by decide +kernel) fun i hi => by
    match i with
    | 0 => decide +kernel
  exact ⟨hmotion.trans (by decide +kernel),
    ⟨(hmoved 0 (by decide)).1, (hmoved 1 (by decide)).1, harrived, hpos.trans (by decide +kernel)⟩,
    (hmoved' 0 (by decide)).1, hblocked, hpos'.trans (by decide +kernel)⟩

end Play

end GridScript
