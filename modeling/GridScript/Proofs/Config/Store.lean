import GridScript.Config.Store
import GridScript.Proofs.Json.Shape
import GridScript.Proofs.Session.Run
import GridScript.Proofs.Text.Utf8

/-!
The settings directory over any run of steps.

A step stores the bytes of a settings file, loads the settings, or writes settings. Settings that
are valid read back from the bytes they are written as, so the file answers with them until the next
step that stores something; a load, and a write of settings that are not valid, store nothing.
-/

namespace GridScript

namespace Config

/-! ### Settings as bytes -/

lemma plain_toJson (c : Config) : c.toJson.Plain := by
  simp [toJson]

lemma ofJson?_toJson (room : Nat) (c : Config) : ofJson? (room + 1) c.toJson = some c := by
  rw [ofJson?, toJson, Json.openRecord?_record]
  · simp [setting?]
  · decide
  · rfl

lemma validate_eq_ok_iff {c : Config} : c.validate = .ok () ↔ c.fault? = none := by
  unfold validate
  cases c.fault? <;> simp

lemma ofFileBytes_fileBytes {c : Config} (h : c.validate = .ok ()) :
    ofFileBytes c.fileBytes = .ok c := by
  have hparse : Json.parse? (c.fileText.map some) = some c.toJson :=
    Json.parse?_pretty c.plain_toJson 0
  have hread : ofJson? Json.maxNesting c.toJson = some c := c.ofJson?_toJson 126
  have hfault : c.fault? = none := validate_eq_ok_iff.1 h
  simp only [ofFileBytes, fileBytes, Text.Utf8.decode_encode, Json.decode?, hparse,
    Option.bind_some, hread, hfault]

/-- What is read from a settings file is valid, also where there is no file. -/
lemma validate_of_ofFile {file : Option (List UInt8)} {c : Config} (h : ofFile file = .ok c) :
    c.validate = .ok () := by
  cases file with
  | none =>
    obtain rfl : {} = c := by simpa [ofFile] using h
    rfl
  | some bytes =>
    simp only [ofFile, ofFileBytes] at h
    split at h
    · cases h
    · split at h
      · cases h
      · rename_i hfault
        cases h
        exact validate_eq_ok_iff.2 hfault

end Config

/-! ### Opening a session -/

lemma Session.exists_new {c : Config} (h : c.validate = .ok ()) (w : World) :
    ∃ s, Session.new c w = .ok s :=
  ⟨_, new_eq_ok_iff.2 ⟨h, rfl⟩⟩

lemma Session.ofMapText_ne_config {c : Config} (h : c.validate = .ok ()) (text : List Char)
    (col row : Nat) (e : ConfigError) : Session.ofMapText c text col row ≠ .error (.config e) := by
  unfold Session.ofMapText
  cases TileMap.parse text c.tileSize with
  | error e => simp [Except.mapError, bind, Except.bind]
  | ok map =>
    obtain ⟨s, hs⟩ := Session.exists_new h (World.new map (map.cellOrigin col row) c)
    simp [Except.mapError, bind, Except.bind, hs]

/-! ### Steps -/

/-- A step on a settings directory. -/
inductive SettingsStep where
  | replace (bytes : List UInt8)
  | load
  | write (c : Config)

/-- The step stores nothing: it loads, or writes settings that are not valid. -/
def SettingsStep.StoresNothing : SettingsStep → Prop
  | replace _ => False
  | load => True
  | write c => c.validate ≠ .ok ()

namespace SettingsStore

/-- The directory after a step. -/
def step (s : SettingsStore) : SettingsStep → SettingsStore
  | .replace bytes => s.replace bytes
  | .load => s
  | .write c => (s.write c).2

def run (s : SettingsStore) (xs : List SettingsStep) : SettingsStore := xs.foldl step s

lemma run_append (s : SettingsStore) (xs ys : List SettingsStep) :
    s.run (xs ++ ys) = (s.run xs).run ys := List.foldl_append

lemma write_fst (s : SettingsStore) (c : Config) : (s.write c).1 = c.validate := by
  unfold write
  split <;> simp_all

lemma step_of_storesNothing {x : SettingsStep} (h : x.StoresNothing) (s : SettingsStore) :
    s.step x = s := by
  cases x with
  | replace bytes => exact h.elim
  | load => rfl
  | write c =>
    simp only [step, write]
    split
    · rename_i hc
      exact absurd hc h
    · rfl

lemma run_of_storesNothing {xs : List SettingsStep} (h : ∀ x ∈ xs, x.StoresNothing)
    (s : SettingsStore) : s.run xs = s := by
  induction xs with
  | nil => rfl
  | cons x xs ih =>
    obtain ⟨hx, hxs⟩ := List.forall_mem_cons.1 h
    rw [run, List.foldl_cons, step_of_storesNothing hx]
    exact ih hxs

lemma load_step_write {c : Config} (h : c.validate = .ok ()) (s : SettingsStore) :
    (s.step (.write c)).load = .ok c := by
  simp only [step, write, h, load, file_replace, Config.ofFile]
  exact Config.ofFileBytes_fileBytes h

/-! ### Files -/

lemma mem_remove {s : SettingsStore} {name : String} {f : String × List UInt8} :
    f ∈ (s.remove name).files ↔ f ∈ s.files ∧ f.1 ≠ name := by
  simp [remove]

lemma mem_put {s : SettingsStore} {name : String} {bytes : List UInt8} {f : String × List UInt8} :
    f ∈ (s.put name bytes).files ↔ f = (name, bytes) ∨ f ∈ s.files ∧ f.1 ≠ name := by
  rw [put, List.mem_cons, mem_remove]

lemma mem_names {s : SettingsStore} {name : String} :
    name ∈ s.names ↔ ∃ f ∈ s.files, f.1 = name := by
  simp [names]

/-- The directory holds nothing but the settings file. -/
def Tidy (s : SettingsStore) : Prop := ∀ name ∈ s.names, name = fileName

lemma Tidy.replace {s : SettingsStore} (h : s.Tidy) (bytes : List UInt8) :
    (s.replace bytes).Tidy := by
  have hreplace : s.replace bytes =
      ((s.put temporaryName bytes).remove temporaryName).put fileName bytes := by
    simp only [SettingsStore.replace, move, get?_put_self]
  intro name hname
  obtain ⟨f, hf, rfl⟩ := mem_names.1 hname
  rw [hreplace, mem_put, mem_remove, mem_put] at hf
  rcases hf with rfl | ⟨⟨rfl | ⟨hf, -⟩, htemporary⟩, -⟩
  · rfl
  · exact absurd rfl htemporary
  · exact h _ (mem_names.2 ⟨f, hf, rfl⟩)

lemma Tidy.step {s : SettingsStore} (h : s.Tidy) (x : SettingsStep) : (s.step x).Tidy := by
  cases x with
  | replace bytes => exact h.replace bytes
  | load => exact h
  | write c =>
    simp only [SettingsStore.step, write]
    split
    · exact h.replace c.fileBytes
    · exact h

lemma Tidy.run {s : SettingsStore} (h : s.Tidy) (xs : List SettingsStep) : (s.run xs).Tidy := by
  induction xs generalizing s with
  | nil => exact h
  | cons x xs ih => exact ih (h.step x)

/-- **A settings directory keeps what was written to it**: after any steps on a new directory,
settings are written exactly if they are valid, and are then what is loaded until the next step that
stores something; a step that stores nothing leaves the file as it is; what is loaded is valid and
opens a session, and it is the defaults if nothing was ever stored; and there is no other file. -/
theorem faithful (xs : List SettingsStep) :
    (∀ c : Config, ((empty.run xs).write c).1 = .ok () ↔ c.validate = .ok ()) ∧
      (∀ (c : Config) (ys : List SettingsStep), ((empty.run xs).write c).1 = .ok () →
        (∀ y ∈ ys, y.StoresNothing) → (empty.run (xs ++ .write c :: ys)).load = .ok c) ∧
      (∀ y : SettingsStep, y.StoresNothing → ((empty.run xs).step y).file = (empty.run xs).file) ∧
      (∀ c : Config, (empty.run xs).load = .ok c → c.validate = .ok () ∧
        (∀ w : World, ∃ s, Session.new c w = .ok s) ∧
          ∀ text col row e, Session.ofMapText c text col row ≠ .error (.config e)) ∧
      ((∀ x ∈ xs, x.StoresNothing) → (empty.run xs).load = .ok {}) ∧
      ∀ name ∈ (empty.run xs).names, name = fileName := by
  refine ⟨fun c => by rw [write_fst], fun c ys hc hys => ?_, fun y hy => ?_, fun c hc => ?_,
    fun hxs => ?_, ?_⟩
  · rw [write_fst] at hc
    rw [run_append]
    show ((((empty.run xs).step (.write c)).run ys).load = .ok c)
    rw [run_of_storesNothing hys]
    exact load_step_write hc _
  · rw [step_of_storesNothing hy]
  · have hvalid : c.validate = .ok () := Config.validate_of_ofFile hc
    exact ⟨hvalid, Session.exists_new hvalid, Session.ofMapText_ne_config hvalid⟩
  · rw [run_of_storesNothing hxs]
    rfl
  · have hempty : empty.Tidy := fun _ hname => by simp [mem_names, empty] at hname
    exact hempty.run xs

/-- The largest settings there are. -/
def largest : Config where
  tileSize := 4294967295
  actionDelay := 18446744073709551615
  moveSpeed := 4294967295
  frameDelay := 18446744073709551615
  defaultWait := 18446744073709551615
  damagePerError := 4294967295
  maxHealth := 4294967295
  maxRepeat := 4294967295

/-- Steps that store nothing, the second a write of settings that are not valid. -/
def idleSteps : List SettingsStep := [.load, .write { maxRepeat := 0 }, .load]

lemma storesNothing_of_mem_idleSteps : ∀ y ∈ idleSteps, y.StoresNothing := by
  have hinvalid : ({ maxRepeat := 0 } : Config).validate ≠ .ok () := by decide
  simpa [idleSteps, SettingsStep.StoresNothing] using hinvalid

/-- The largest settings replace a file that cannot be read. -/
theorem faithful_largest :
    ((empty.run [.replace [0xff], .load]).write largest).1 = .ok () ∧
      (∀ y ∈ idleSteps, y.StoresNothing) ∧
        (empty.run ([.replace [0xff], .load] ++ .write largest :: idleSteps)).load = .ok largest ∧
          largest.validate = .ok () ∧ (empty.run idleSteps).load = .ok {} := by
  have hwrite := ((faithful [.replace [0xff], .load]).1 largest).2 rfl
  have hload := (faithful [.replace [0xff], .load]).2.1 largest idleSteps hwrite
    storesNothing_of_mem_idleSteps
  have hopen := (faithful ([.replace [0xff], .load] ++ .write largest :: idleSteps)).2.2.2.1
    largest hload
  exact ⟨hwrite, storesNothing_of_mem_idleSteps, hload, hopen.1,
    (faithful idleSteps).2.2.2.2.1 storesNothing_of_mem_idleSteps⟩

end SettingsStore

end GridScript
