import GridScript.CommandLine.Program
import GridScript.Proofs.CommandLine.Files
import GridScript.Proofs.Config.Store

/-!
Runs that show or change the settings.

A run that ends well has loaded settings, and has either shown them or saved them with the changes
made; saved settings are valid and are what the next run loads. So runs one after the other change
the settings one after the other, and changes of different settings may be made in any order.

Two things can go wrong after the settings have come to their place: their directory cannot be
synced, or nothing can be printed. Then the run fails, and the settings are the new ones all the
same.
-/

namespace GridScript.CommandLine

/-! ### Loading -/

lemma loadConfig?_of_fileBytes {reads : Reads} {root : String} {c : Config}
    (h : c.validate = .ok ()) (hread : reads (settingsPath root) = .bytes c.fileBytes) :
    loadConfig? reads root = some c := by
  simp only [loadConfig?, hread, Config.ofFileBytes_fileBytes h]
  rfl

/-- A file of settings in their usual place. -/
def settingsTree (bytes : List UInt8) : FileTree :=
  FileTree.ofList [(".codequest/settings.json", bytes)]

lemma read_settingsTree (bytes : List UInt8) :
    (settingsTree bytes).read (settingsPath Invocation.defaultRoot) = .bytes bytes := rfl

lemma isFileName_fileName : FilePath.IsFileName SettingsStore.fileName where
  slash := by decide
  here := rfl
  above := by decide
  long := by decide

/-- The directory of the settings is never the empty path. -/
lemma root_ne_empty {args : List String} {i : Invocation} (h : Invocation.ofArguments? args = some i) :
    i.root ≠ "" := by
  simp only [Invocation.ofArguments?, Option.bind_eq_bind, Option.bind_eq_some_iff] at h
  obtain ⟨⟨p, rest⟩, -, given, hgiven, h⟩ := h
  have hroot : given.getD Invocation.defaultRoot ≠ "" := by
    unfold Parsed.read? at hgiven
    split at hgiven
    · obtain rfl : none = given := Option.some.inj hgiven
      decide
    · rename_i s _
      simp only [path?] at hgiven
      split at hgiven
      · cases hgiven
      · rename_i hs
        obtain rfl : some s = given := Option.some.inj hgiven
        simpa using hs
  split at h
  · split at h
    · obtain ⟨task, -, h⟩ := Option.bind_eq_some_iff.1 h
      obtain rfl := Option.some.inj h
      exact hroot
    · cases h
  · cases h

/-! ### Changes -/

namespace Changes

variable {ch : Changes}

lemma apply_of_isNone (h : ch.isNone = true) (c : Config) : ch.apply c = c := by
  obtain ⟨level, speed, wait, limit⟩ := ch
  simp only [isNone, Bool.and_eq_true, Option.isNone_iff_eq_none] at h
  obtain ⟨⟨⟨rfl, rfl⟩, rfl⟩, rfl⟩ := h
  rfl

end Changes

/-! ### Runs -/

/-- The settings as they are printed. -/
def shownConfig (c : Config) : String := String.ofList c.fileText ++ "\n"

/-- The line that tells where settings were saved. -/
def savedNotice (root : String) : String :=
  "Saved settings to " ++ shownPath (settingsPath root) ++ "\n"

variable {args : List String} {t t' : FileTree} {input : List Char} {root : String} {ch : Changes}

/-- A run that changes nothing shows the settings as they are. -/
lemma runProgram_of_isNone (hargs : Invocation.ofArguments? args = some ⟨root, .settings ch⟩)
    (h : ch.isNone = true) {c : Config} (hload : loadConfig? t.read root = some c) :
    runProgram args t input = (Result.success (shownConfig c), t) := by
  simp only [runProgram, hargs, Invocation.perform, hload, changeSettings, h, if_true,
    Changes.apply_of_isNone h]
  rfl

/-- A run that makes changes saves the settings if they are valid then. -/
lemma runProgram_of_validate (hargs : Invocation.ofArguments? args = some ⟨root, .settings ch⟩)
    (h : ch.isNone = false) {c : Config} (hload : loadConfig? t.read root = some c)
    (hvalid : (ch.apply c).validate = .ok ()) :
    runProgram args t input =
      let w := t.write root SettingsStore.fileName (ch.apply c).fileBytes
      (if w.1 = .done then
          ⟨0, savedNotice root ++ shownConfig (ch.apply c), some (ch.apply c).fileBytes⟩
        else Result.failure, w.2) := by
  simp only [runProgram, hargs, Invocation.perform, hload, changeSettings, h, Bool.false_eq_true,
    if_false, Config.validate_eq_ok_iff.1 hvalid]
  rfl

lemma runProgram_of_not_validate (hargs : Invocation.ofArguments? args = some ⟨root, .settings ch⟩)
    (h : ch.isNone = false) {c : Config} (hload : loadConfig? t.read root = some c)
    (hvalid : (ch.apply c).validate ≠ .ok ()) : runProgram args t input = (Result.failure, t) := by
  obtain ⟨e, hfault⟩ : ∃ e, (ch.apply c).fault? = some e :=
    Option.ne_none_iff_exists'.1 fun hfault => hvalid (Config.validate_eq_ok_iff.2 hfault)
  simp only [runProgram, hargs, Invocation.perform, hload, changeSettings, h, Bool.false_eq_true,
    if_false, hfault, Result.failure]

/-- A run that ends well has loaded settings, and the next one loads them with the changes made. -/
lemma loadConfig?_of_exitCode (hargs : Invocation.ofArguments? args = some ⟨root, .settings ch⟩)
    (h : (runProgram args t input).1.exitCode = 0) :
    ∃ c, loadConfig? t.read root = some c ∧
      loadConfig? (runProgram args t input).2.read root = some (ch.apply c) ∧
      (ch.isNone = false →
        (runProgram args t input).2.read (settingsPath root) = .bytes (ch.apply c).fileBytes ∧
          (runProgram args t input).1.output = savedNotice root ++ shownConfig (ch.apply c)) := by
  cases hload : loadConfig? t.read root with
  | none =>
    simp only [runProgram, hargs, Invocation.perform, hload] at h
    cases h
  | some c =>
    refine ⟨c, rfl, ?_⟩
    cases hnone : ch.isNone with
    | true =>
      rw [runProgram_of_isNone hargs hnone hload, Changes.apply_of_isNone hnone]
      exact ⟨hload, fun hsome => by cases hsome⟩
    | false =>
      by_cases hvalid : (ch.apply c).validate = .ok ()
      · rw [runProgram_of_validate hargs hnone hload hvalid] at h ⊢
        cases hwrite : t.write root SettingsStore.fileName (ch.apply c).fileBytes with
        | mk written t' =>
          cases written with
          | failed | unsynced =>
            rw [hwrite] at h
            cases h
          | done =>
            have hread : t'.read (settingsPath root) = .bytes (ch.apply c).fileBytes :=
              FileTree.read_of_write (root_ne_empty hargs) isFileName_fileName Written.noConfusion
                hwrite
            exact ⟨loadConfig?_of_fileBytes hvalid hread, fun _ => ⟨hread, rfl⟩⟩
      · rw [runProgram_of_not_validate hargs hnone hload hvalid] at h
        cases h

/-- No file has changed, but what lay beside a settings file may be gone; and settings that could be
read are read as before. -/
structure Spared (t t' : FileTree) (root : String) : Prop where
  intact : t.Intact t' SettingsStore.temporaryName
  settings : ∀ content, t.read (settingsPath root) = .bytes content →
    t'.read (settingsPath root) = .bytes content

lemma Spared.refl (t : FileTree) (root : String) : Spared t t root :=
  ⟨fun _ => .inl rfl, fun _ hread => hread⟩

/-- Runs of the program one after the other, all of which end well. -/
inductive Succession : FileTree → List (List String) → FileTree → Prop
  | nil (t : FileTree) : Succession t [] t
  | cons {args : List String} {argss : List (List String)} {t t' : FileTree} (input : List Char)
    (hexit : (runProgram args t input).1.exitCode = 0)
    (hrest : Succession (runProgram args t input).2 argss t') : Succession t (args :: argss) t'

/-- Runs that change the settings change them one after the other. -/
lemma Succession.read {argss : List (List String)} (h : Succession t argss t') {chs : List Changes}
    (hargs : List.Forall₂
      (fun args ch => Invocation.ofArguments? args = some ⟨root, .settings ch⟩) argss chs)
    (hsome : ∀ ch ∈ chs, ch.isNone = false) {c : Config} (hload : loadConfig? t.read root = some c)
    (hne : chs ≠ []) :
    t'.read (settingsPath root) = .bytes (chs.foldl (fun c x => x.apply c) c).fileBytes := by
  induction h generalizing c chs with
  | nil t =>
    cases hargs
    exact absurd rfl hne
  | @cons args argss t t' input hexit hrest ih =>
    cases hargs with
    | @cons _ ch _ chs hfirst hothers =>
      obtain ⟨hch, hchs⟩ := List.forall_mem_cons.1 hsome
      obtain ⟨c', hload', hnext, hread⟩ := loadConfig?_of_exitCode hfirst hexit
      obtain rfl : c' = c := Option.some.inj (hload'.symm.trans hload)
      cases chs with
      | nil =>
        cases hothers
        cases hrest
        exact (hread hch).1
      | cons x chs => exact ih hothers hchs hnext (List.cons_ne_nil _ _)

end GridScript.CommandLine
