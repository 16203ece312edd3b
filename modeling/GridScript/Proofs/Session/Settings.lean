import GridScript.Proofs.Config.Store
import GridScript.Proofs.Motion.Settings
import GridScript.Proofs.Session.Effects
import GridScript.Proofs.World.Obstacles

/-!
The settings that a session reports are those that it goes by.

A session keeps its settings beside a scheduler and rules that were made from them. The setters
change both sides, and a speed of zero counts as one on both; nothing else that may happen to a
session touches either. So the settings stay valid, and a session that is opened with them after they
were stored goes by the same ones.
-/

namespace GridScript

namespace Config

lemma validate_eq_ok_iff_positives {c : Config} :
    c.validate = .ok () ↔ ∀ x ∈ c.positives, x.2 ≠ 0 := by
  rw [validate_eq_ok_iff, fault?, Option.map_eq_none_iff, List.find?_eq_none]
  simp

lemma validate_setActionDelay {c : Config} (h : c.validate = .ok ()) (ms : Millis) :
    { c with actionDelay := ms }.validate = .ok () := h

lemma validate_setMoveSpeed {c : Config} (h : c.validate = .ok ()) (speed : UInt32) :
    { c with moveSpeed := atLeastOne speed }.validate = .ok () := by
  rw [validate_eq_ok_iff_positives] at h ⊢
  simp only [positives, List.forall_mem_cons] at h ⊢
  exact ⟨h.1, atLeastOne_ne_zero speed, h.2.2⟩

end Config

lemma Scheduler.settings_effects (s : Scheduler) (fx : List Effect) :
    (fx.foldl Effect.apply s).settings = s.settings :=
  Effect.foldl_inv (P := fun t => t.settings = s.settings)
    (fun {t} a ht => (t.settings_stage a).trans ht) id rfl fx

namespace Session

/-- The scheduler and the rules of a session go by some settings. -/
structure GoesBy (s : Session) (c : Config) : Prop where
  tileSize : s.scheduler.tileSize = c.tileSize
  actionDelay : s.scheduler.gate.delay = c.actionDelay
  moveSpeed : s.scheduler.moveSpeed = c.moveSpeed
  frameDelay : s.scheduler.frameDelay = c.frameDelay
  defaultWait : s.rules.defaultWait = c.defaultWait
  damagePerError : s.rules.damagePerError = c.damagePerError
  maxRepeat : s.rules.maxRepeat = c.maxRepeat

/-- The session was opened, in a world or on a map given as text. -/
inductive Opened (s : Session) : Prop where
  | new (c : Config) (w : World) (h : Session.new c w = .ok s)
  | ofMapText (c : Config) (text : List Char) (col row : Nat)
      (h : Session.ofMapText c text col row = .ok s)

/-- The session goes by the settings that it reports, and these are valid. -/
structure InForce (s : Session) : Prop where
  valid : s.config.validate = .ok ()
  goesBy : s.GoesBy s.config

/-- What leaves the settings alone on both sides keeps them in force. -/
lemma InForce.congr {s t : Session} (h : s.InForce) (hconfig : t.config = s.config)
    (hrules : t.rules = s.rules) (hsettings : t.scheduler.settings = s.scheduler.settings) :
    t.InForce where
  valid := hconfig ▸ h.valid
  goesBy := by
    rw [hconfig]
    exact ⟨(congrArg Config.tileSize hsettings).trans h.goesBy.tileSize,
      (congrArg Config.actionDelay hsettings).trans h.goesBy.actionDelay,
      (congrArg Config.moveSpeed hsettings).trans h.goesBy.moveSpeed,
      (congrArg Config.frameDelay hsettings).trans h.goesBy.frameDelay,
      hrules ▸ h.goesBy.defaultWait, hrules ▸ h.goesBy.damagePerError, hrules ▸ h.goesBy.maxRepeat⟩

/-- A new session goes by the settings that it was opened with. -/
lemma goesBy_new {c : Config} {w : World} {s : Session} (h : Session.new c w = .ok s) :
    c.validate = .ok () ∧ s.config = c ∧ s.GoesBy c := by
  obtain ⟨hvalid, rfl⟩ := new_eq_ok_iff.1 h
  have hpos := Config.validate_eq_ok_iff_positives.1 hvalid
  simp only [Config.positives, List.forall_mem_cons] at hpos
  exact ⟨hvalid, rfl, if_neg hpos.1, rfl, if_neg hpos.2.1, rfl, rfl, rfl, rfl⟩

lemma Opened.inForce {s : Session} (h : s.Opened) : s.InForce := by
  obtain ⟨c, w, hnew⟩ : ∃ c w, Session.new c w = .ok s := by
    cases h with
    | new c w hnew => exact ⟨c, w, hnew⟩
    | ofMapText c text col row h =>
      obtain ⟨map, -, hnew⟩ := ofMapText_eq_ok_iff.1 h
      exact ⟨c, _, hnew⟩
  obtain ⟨hvalid, rfl, hgoes⟩ := goesBy_new hnew
  exact ⟨hvalid, hgoes⟩

lemma InForce.setActionDelay {s : Session} (h : s.InForce) (ms : Millis) :
    (s.setActionDelay ms).InForce where
  valid := Config.validate_setActionDelay h.valid ms
  goesBy := ⟨h.goesBy.tileSize, rfl, h.goesBy.moveSpeed, h.goesBy.frameDelay, h.goesBy.defaultWait,
    h.goesBy.damagePerError, h.goesBy.maxRepeat⟩

lemma InForce.setMoveSpeed {s : Session} (h : s.InForce) (speed : UInt32) :
    (s.setMoveSpeed speed).InForce where
  valid := Config.validate_setMoveSpeed h.valid speed
  goesBy := ⟨h.goesBy.tileSize, h.goesBy.actionDelay, rfl, h.goesBy.frameDelay,
    h.goesBy.defaultWait, h.goesBy.damagePerError, h.goesBy.maxRepeat⟩

lemma InForce.step {s : Session} (h : s.InForce) (e : Event) : (s.step e).InForce := by
  cases e with
  | submit line =>
    simp only [Session.step, Session.submit]
    refine h.congr rfl rfl ?_
    rw [scheduler_submit, Scheduler.settings_effects]
  | tick now => exact h.congr rfl rfl (s.scheduler.settings_tick now s.world)
  | clear => exact h.congr rfl rfl s.scheduler.settings_clear
  | setActionDelay ms => exact h.setActionDelay ms
  | setMoveSpeed speed => exact h.setMoveSpeed speed
  | setSpeedLevel level => exact h.setActionDelay (speedDelay level)
  | edit f => exact h.congr rfl rfl rfl

lemma InForce.run {s : Session} (h : s.InForce) (es : List Event) : (s.run es).InForce := by
  induction es generalizing s with
  | nil => exact h
  | cons e es ih => exact ih (h.step e)

/-- **The settings that a session reports are in force**: after any run of a session that was opened,
in a world or on a map given as text, its settings are valid, and its scheduler and its rules go by
them. So they can be written to any settings directory, are what is loaded from it then, and open a
session in any world, and on any text that is a map, which goes by the same settings. -/
theorem settings_in_force {s : Session} (h : s.Opened) (es : List Event) :
    let c := (s.run es).config
    c.validate = .ok () ∧ (s.run es).GoesBy c ∧
      ∀ store : SettingsStore,
        (store.write c).1 = .ok () ∧ (store.write c).2.load = .ok c ∧
          (∀ w, ∃ t, Session.new c w = .ok t ∧ t.config = c ∧ t.GoesBy c) ∧
          ∀ text col row map, TileMap.parse text c.tileSize = .ok map →
            ∃ t, Session.ofMapText c text col row = .ok t ∧ t.config = c ∧ t.GoesBy c := by
  intro c
  have hforce : (s.run es).InForce := h.inForce.run es
  have hopen : ∀ w, ∃ t, Session.new c w = .ok t ∧ t.config = c ∧ t.GoesBy c := fun w => by
    obtain ⟨t, ht⟩ := exists_new hforce.valid w
    exact ⟨t, ht, (goesBy_new ht).2⟩
  refine ⟨hforce.valid, hforce.goesBy, fun store => ⟨?_, ?_, hopen, ?_⟩⟩
  · rw [SettingsStore.write_fst, hforce.valid]
  · exact SettingsStore.load_step_write hforce.valid store
  · intro text col row map hmap
    obtain ⟨t, ht, hgoes⟩ := hopen (World.new map (map.cellOrigin col row) c)
    exact ⟨t, ofMapText_eq_ok_iff.2 ⟨map, hmap, ht⟩, hgoes⟩

/-- A new session in a row of tiles. -/
def rowSession : Session := ⟨rowConfig, rowConfig.rules, Scheduler.new rowConfig, rowWorld⟩

/-- Another speed, the highest command speed, a step that sets out, and then a speed of zero. -/
def tuning : List Event :=
  [.setMoveSpeed 7, .setSpeedLevel 10, .submit "walk 2 right", .tick 0, .setMoveSpeed 0,
    .edit (·.place ⟨1, 0⟩)]

theorem settings_in_force_row :
    rowSession.Opened ∧
      (rowSession.run tuning).config = { rowConfig with moveSpeed := 1, actionDelay := 50 } ∧
      (rowSession.run tuning).scheduler.motion ≠ none ∧
      (rowSession.run tuning).scheduler.moveSpeed = 1 ∧
      (SettingsStore.empty.write (rowSession.run tuning).config).2.load =
        .ok (rowSession.run tuning).config := by
  have hopened : rowSession.Opened := .new rowConfig rowWorld rfl
  obtain ⟨-, hgoes, hstore⟩ := settings_in_force hopened tuning
  exact ⟨hopened, by decide +kernel, by decide +kernel, hgoes.moveSpeed.trans (by decide +kernel),
    (hstore SettingsStore.empty).2.1⟩

end Session

end GridScript
