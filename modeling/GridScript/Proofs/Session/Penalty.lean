import GridScript.Proofs.Session.Health
import GridScript.Proofs.Session.Settings

/-!
What a report tells of the agent's health.

The flag `Report.damaged` is set by the errors of a line, whereas the health decides on its own
whether there is anything to take. Every health that damage and resets lead to has something left
as long as the agent is alive, and the damage of an error is positive, so the two agree until the
game is over. A line with an error that is submitted after that is reported as damaging too.
-/

namespace GridScript

namespace Health

/-- The health is what some damage has left of a full one. -/
def Worn (h : Health) : Prop := ∃ taken, h.Bears h.max taken

variable {h : Health}

lemma worn_full (max : UInt32) : (full max).Worn := ⟨0, bears_full max⟩

lemma worn_reset (h : Health) : h.reset.Worn := worn_full h.max

lemma Worn.damage (hw : h.Worn) (amount : UInt32) : (h.damage amount).Worn := by
  obtain ⟨taken, hb⟩ := hw
  exact ⟨taken + amount.toNat, (h.max_damage amount).symm ▸ hb.damage amount⟩

lemma Worn.isDead_iff (hw : h.Worn) : h.isDead = true ↔ h.current = 0 :=
  hw.elim fun _ hb => hb.isDead_iff

/-- The dead lose nothing, as they have nothing left. -/
lemma Worn.toNat_damage (hw : h.Worn) (amount : UInt32) :
    (h.damage amount).current.toNat = h.current.toNat - amount.toNat := by
  obtain ⟨taken, hb⟩ := hw
  calc (h.damage amount).current.toNat = h.max.toNat - (taken + amount.toNat) :=
        (hb.damage amount).current_eq
    _ = h.max.toNat - taken - amount.toNat := (Nat.sub_sub _ _ _).symm
    _ = h.current.toNat - amount.toNat := by rw [hb.current_eq]

/-- Damage is felt by the living only. -/
lemma Worn.damage_lt_iff (hw : h.Worn) {amount : UInt32} (hamount : amount ≠ 0) :
    (h.damage amount).current < h.current ↔ h.isDead = false := by
  have hpos : amount.toNat ≠ 0 := fun h0 => hamount (UInt32.toNat_inj.1 h0)
  rw [← Bool.not_eq_true, hw.isDead_iff, ← UInt32.toNat_inj, UInt32.lt_iff_toNat_lt,
    hw.toNat_damage, UInt32.toNat_zero]
  omega

end Health

namespace Session

/-- An event from outside does to the health nothing but damage or resets; to the others this is no
condition. -/
def Event.Wears : Event → Prop
  | .edit f => ∀ w, w.health.Worn → (f w).health.Worn
  | _ => True

lemma wears_hurt (amount : UInt32) : (Event.edit (·.hurt amount)).Wears :=
  fun _ hw => hw.damage amount

lemma wears_resetHealth : (Event.edit World.resetHealth).Wears := fun w _ => w.health.worn_reset

/-- What a line does to the health: it is damaged once if there is an error. -/
lemma health_submit (s : Session) (line : String) :
    (s.submit line).2.world.health =
      if (s.submit line).1.damaged then s.world.health.damage s.rules.damagePerError
      else s.world.health := by
  have hworld : (s.submit line).2.world =
      if (s.submit line).1.success then s.world else s.world.hurt s.rules.damagePerError :=
    world_submit s.rules line s.scheduler s.world
  have hflag : (s.submit line).1.damaged = !(s.submit line).1.success := by
    simp only [submit, Rules.submit]
  rw [hworld, hflag]
  cases (s.submit line).1.success <;> rfl

lemma damaged_submit_iff (s : Session) (line : String) :
    (s.submit line).1.damaged = true ↔ (s.submit line).1.errors ≠ [] := by
  simp only [submit, Rules.submit, Bool.not_eq_true', List.isEmpty_eq_false_iff]

/-- A tick leaves the health alone. -/
lemma health_tick (s : Session) (now : Millis) : (s.tick now).2.world.health = s.world.health :=
  (s.scheduler.accounts_tick now s.world).follows.health

lemma worn_step {s : Session} (hw : s.world.health.Worn) {e : Event} (he : e.Wears) :
    (s.step e).world.health.Worn := by
  cases e with
  | submit line =>
    show (s.submit line).2.world.health.Worn
    rw [health_submit]
    split
    · exact hw.damage s.rules.damagePerError
    · exact hw
  | tick now =>
    show (s.tick now).2.world.health.Worn
    rwa [health_tick]
  | edit f => exact he s.world hw
  | clear | setActionDelay | setMoveSpeed | setSpeedLevel => exact hw

lemma worn_run {s : Session} (hw : s.world.health.Worn) {es : List Event} (hes : ∀ e ∈ es, e.Wears) :
    (s.run es).world.health.Worn := by
  induction es generalizing s with
  | nil => exact hw
  | cons e es ih =>
    obtain ⟨he, hes⟩ := List.forall_mem_cons.1 hes
    exact ih (worn_step hw he) hes

/-- The damage of an error stays as it was set, which is positive. -/
lemma damagePerError_run {c : Config} {w : World} {s : Session} (h : Session.new c w = .ok s)
    (es : List Event) : (s.run es).rules.damagePerError = c.damagePerError ∧ c.damagePerError ≠ 0 := by
  obtain ⟨hvalid, rfl⟩ := new_eq_ok_iff.1 h
  have hpos := Config.validate_eq_ok_iff_positives.1 hvalid
  exact ⟨congrArg Rules.damagePerError (rules_run _ es),
    hpos ("damage_per_error", c.damagePerError) (by simp [Config.positives])⟩

/-- **What the flag of a report tells**: whatever has happened to a session in a new world, a line
with errors takes the damage of one error off the health, or all that is left, and a line without
takes nothing. The flag tells whether there were errors. So it tells whether health was lost, unless
the game was over before: then nothing is taken, and the flag is wrong for a line with an error. -/
theorem damaged_iff_hurt {c d : Config} {map : TileMap} {start : Position} {s : Session}
    (h : Session.new c (World.new map start d) = .ok s) {es : List Event}
    (hes : ∀ e ∈ es, e.Wears) (line : String) :
    let t := s.run es
    let report := (t.submit line).1
    let before := t.world.health.current
    let after := (t.submit line).2.world.health.current
    after.toNat = before.toNat - (if report.damaged then c.damagePerError.toNat else 0) ∧
      (report.damaged = true ↔ report.errors ≠ []) ∧
      (t.world.isGameOver = true ↔ before = 0) ∧
      ((report.damaged = true ↔ after < before) ↔
        (t.world.isGameOver = true → report.errors = [])) := by
  intro t report before after
  have hworn : t.world.health.Worn := by
    refine worn_run ?_ hes
    rw [(new_eq_ok_iff.1 h).2]
    exact Health.worn_full d.maxHealth
  obtain ⟨hdamage, hpos⟩ : t.rules.damagePerError = c.damagePerError ∧ c.damagePerError ≠ 0 :=
    damagePerError_run h es
  have herrors : report.damaged = true ↔ report.errors ≠ [] := damaged_submit_iff t line
  have hafter : after = if report.damaged then (t.world.health.damage c.damagePerError).current
      else before := by
    show (t.submit line).2.world.health.current = _
    rw [health_submit, hdamage]
    exact apply_ite Health.current _ _ _
  refine ⟨?_, herrors, hworn.isDead_iff, ?_⟩
  · rw [hafter]
    split
    · exact hworn.toNat_damage c.damagePerError
    · exact (Nat.sub_zero _).symm
  · have hlt := hworn.damage_lt_iff hpos
    show _ ↔ (t.world.health.isDead = true → _)
    by_cases hflag : report.damaged = true
    · rw [hafter, if_pos hflag, hlt, iff_true_left hflag, ← Bool.not_eq_true]
      exact ⟨fun halive hdead => absurd hdead halive,
        fun hnone hdead => herrors.1 hflag (hnone hdead)⟩
    · have hnone : report.errors = [] := not_not.1 fun hne => hflag (herrors.2 hne)
      rw [hafter, if_neg hflag]
      exact iff_of_true (iff_of_false hflag (UInt32.lt_irrefl before)) fun _ => hnone

/-- The settings of a game that one error ends. -/
def frailConfig : Config := { maxHealth := 1 }

def frailWorld : World := World.new (TileMap.ofSize 4 3 64) ⟨64, 64⟩ frailConfig

/-- A new session with an agent that the first error kills. -/
def frailSession : Session :=
  ⟨frailConfig, frailConfig.rules, Scheduler.new frailConfig, frailWorld⟩

/-- Two errors in a line, damage from outside when nothing is left, and a reset. -/
def setbacks : List Event :=
  [.submit "jump; fly", .tick 0, .edit (·.hurt 7), .edit World.resetHealth]

/-- After the reset the flag is right for one more error, and wrong for the next. -/
theorem damaged_iff_hurt_frail :
    let t := frailSession.run setbacks
    let u := frailSession.run (setbacks ++ [.submit "jump"])
    Session.new frailConfig frailWorld = .ok frailSession ∧
      (∀ e ∈ setbacks ++ [.submit "jump"], e.Wears) ∧
      t.world.isGameOver = false ∧ u.world.isGameOver = true ∧
      ((t.submit "jump").1.damaged = true ↔
        (t.submit "jump").2.world.health.current < t.world.health.current) ∧
      ¬((u.submit "jump").1.damaged = true ↔
        (u.submit "jump").2.world.health.current < u.world.health.current) := by
  intro t u
  have hnew : Session.new frailConfig frailWorld = .ok frailSession := rfl
  have hwears : ∀ e ∈ setbacks ++ [.submit "jump"], e.Wears := by
    simp only [setbacks, List.cons_append, List.nil_append, List.forall_mem_cons]
    exact ⟨trivial, trivial, wears_hurt 7, wears_resetHealth, trivial, by simp⟩
  have halive : t.world.isGameOver = false := by decide +kernel
  have hover : u.world.isGameOver = true := by decide +kernel
  have herror : (u.submit "jump").1.errors ≠ [] := by decide +kernel
  obtain ⟨-, -, -, hagree⟩ :=
    damaged_iff_hurt hnew (fun e he => hwears e (List.mem_append_left _ he)) "jump"
  obtain ⟨-, -, -, hdiffer⟩ := damaged_iff_hurt hnew hwears "jump"
  refine ⟨hnew, hwears, halive, hover, hagree.2 fun hdead => ?_, fun hflag => ?_⟩
  · exact absurd hdead (Bool.eq_false_iff.1 halive)
  · exact herror (hdiffer.1 hflag hover)

/-- The flag is set for the second error, although the first one took all the health there was. -/
theorem damaged_without_loss :
    let s := frailSession.run [.submit "jump"]
    let after := (s.submit "jump").2
    frailConfig.validate = .ok () ∧ Session.new frailConfig frailWorld = .ok frailSession ∧
      (s.submit "jump").1.damaged = true ∧
      ¬after.world.health.current < s.world.health.current := by
  intro s after
  exact ⟨rfl, rfl, by decide +kernel, by decide +kernel⟩

end Session

end GridScript
