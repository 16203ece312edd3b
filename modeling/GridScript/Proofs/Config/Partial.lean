import GridScript.Proofs.Config.Store

/-!
Settings files that hold some of the settings.

The settings that a file gives stand in the place of their defaults, in whatever order, with whatever
white space and beside whatever else the file holds. A setting that is given twice makes the file
unreadable.
-/

namespace GridScript

/-- Some of the settings. -/
structure PartialConfig where
  tileSize : Option UInt32 := none
  actionDelay : Option Millis := none
  moveSpeed : Option UInt32 := none
  frameDelay : Option Millis := none
  defaultWait : Option Millis := none
  damagePerError : Option UInt32 := none
  maxHealth : Option UInt32 := none
  maxRepeat : Option UInt32 := none

namespace PartialConfig

/-- Every setting by its name, and what is written for it if it is given. -/
def entries (p : PartialConfig) : List (String × Option Json) :=
  [("tile_size", p.tileSize.map fun n => Json.ofNat n.toNat),
    ("action_delay_ms", p.actionDelay.map fun n => Json.ofNat n.toNat),
    ("move_speed", p.moveSpeed.map fun n => Json.ofNat n.toNat),
    ("frame_delay_ms", p.frameDelay.map fun n => Json.ofNat n.toNat),
    ("default_wait_ms", p.defaultWait.map fun n => Json.ofNat n.toNat),
    ("damage_per_error", p.damagePerError.map fun n => Json.ofNat n.toNat),
    ("max_health", p.maxHealth.map fun n => Json.ofNat n.toNat),
    ("max_repeat", p.maxRepeat.map fun n => Json.ofNat n.toNat)]

/-- The members of an object that gives these settings. -/
def members (p : PartialConfig) : List (String × Json) := Json.given p.entries

/-- The defaults, with the settings given in their place. -/
def fill (p : PartialConfig) : Config :=
  let c : Config := {}
  { tileSize := p.tileSize.getD c.tileSize
    actionDelay := p.actionDelay.getD c.actionDelay
    moveSpeed := p.moveSpeed.getD c.moveSpeed
    frameDelay := p.frameDelay.getD c.frameDelay
    defaultWait := p.defaultWait.getD c.defaultWait
    damagePerError := p.damagePerError.getD c.damagePerError
    maxHealth := p.maxHealth.getD c.maxHealth
    maxRepeat := p.maxRepeat.getD c.maxRepeat }

lemma keys_entries (p : PartialConfig) : p.entries.map Prod.fst = Config.keys := rfl

end PartialConfig

namespace Config

lemma setting?_map {f : Json → Option α} {g : α → Json} (h : ∀ a, f (g a) = some a) (default : α)
    (o : Option α) : setting? f default (o.map g) = some (o.getD default) := by
  cases o with
  | none => rfl
  | some a => exact h a

/-- Settings are read from the members that give them, in any order and among any others. -/
lemma ofJson?_of_members {p : PartialConfig} {ms : List (String × Json)}
    (h : (ms.filter (·.1 ∈ keys)).Perm p.members) (room : Nat) :
    ofJson? (room + 1) (Json.record ms) = some p.fill := by
  have hopen : (Json.record ms).openRecord? (room + 1) keys = some (p.entries.map Prod.snd) :=
    Json.openRecord?_of_perm p.entries room (by rw [p.keys_entries]; decide) h
  rw [ofJson?, hopen]
  simp [PartialConfig.entries, setting?_map Json.asWord32?_ofNat, setting?_map Json.asWord64?_ofNat,
    PartialConfig.fill]

/-- The fault of settings is the first of those that have to be positive and are not. -/
lemma exists_zero_of_fault? {c : Config} {e : ConfigError} (h : c.fault? = some e) :
    ∃ before name after, c.positives = before ++ (name, 0) :: after ∧
      (∀ x ∈ before, x.2 ≠ 0) ∧ e = .zero name := by
  obtain ⟨⟨name, n⟩, hfind, rfl⟩ := Option.map_eq_some_iff.1 h
  obtain ⟨hzero, before, after, heq, hbefore⟩ := List.find?_eq_some_iff_append.1 hfind
  obtain rfl : n = 0 := by simpa using hzero
  exact ⟨before, name, after, heq, fun x hx => by simpa using hbefore x hx, rfl⟩

lemma validate_eq_error_iff {c : Config} {e : ConfigError} :
    c.validate = .error e ↔ c.fault? = some e := by
  unfold validate
  cases c.fault? <;> simp

end Config

/-! ### Files -/

/-- A text of a value, as bytes, is read as that value. -/
lemma Json.Written.decode? {j : Json} {text : List Char} (h : j.Written text)
    (f : Nat → Json → Option α) :
    Json.decode? f (Text.Utf8.decode (Text.Utf8.encode text)) = f Json.maxNesting j := by
  rw [Text.Utf8.decode_encode, Json.decode?, h.parse?, Option.bind_some]

namespace Config

variable {text : List Char}

lemma decode?_of_members {p : PartialConfig} {ms : List (String × Json)}
    (htext : (Json.record ms).Written text) (h : (ms.filter (·.1 ∈ keys)).Perm p.members) :
    Json.decode? ofJson? (Text.Utf8.decode (Text.Utf8.encode text)) = some p.fill := by
  rw [htext.decode?]
  exact ofJson?_of_members h 126

lemma decode?_of_repeated {fields : List (Option String × Json)}
    (htext : (Json.object fields).Written text) {name : String} (hname : name ∈ keys)
    (h : 2 ≤ (fields.map Prod.fst).count (some name)) :
    Json.decode? ofJson? (Text.Utf8.decode (Text.Utf8.encode text)) = none := by
  rw [htext.decode?, ofJson?, Json.openRecord?_of_repeated hname h]
  rfl

end Config

namespace SettingsStore

/-- **Settings that a file does not give keep their default**: if the file is an object that gives
some of the settings, in any order, with any white space and among any other members, then these
settings are loaded in the place of the defaults if the result is valid, and otherwise its first
setting that has to be positive and is zero is reported; a setting given twice makes the file
unreadable. -/
theorem load_partial {s : SettingsStore} {text : List Char}
    (hfile : s.file = some (Text.Utf8.encode text)) :
    (∀ (p : PartialConfig) (ms : List (String × Json)), (Json.record ms).Written text →
      (ms.filter (·.1 ∈ Config.keys)).Perm p.members →
        (p.fill.validate = .ok () → s.load = .ok p.fill) ∧
          ∀ e, p.fill.validate = .error e → s.load = .error (.invalid e) ∧
            ∃ before name after, p.fill.positives = before ++ (name, 0) :: after ∧
              (∀ x ∈ before, x.2 ≠ 0) ∧ e = .zero name) ∧
      ∀ (fields : List (Option String × Json)) (name : String), (Json.object fields).Written text →
        name ∈ Config.keys → 2 ≤ (fields.map Prod.fst).count (some name) →
          s.load = .error .unreadable := by
  have hload : s.load = Config.ofFileBytes (Text.Utf8.encode text) := by
    rw [load, hfile, Config.ofFile]
  refine ⟨fun p ms htext hms => ⟨fun hvalid => ?_, fun e hinvalid => ?_⟩,
    fun fields name htext hname hcount => ?_⟩
  · have hread := Config.decode?_of_members htext hms
    have hfault := Config.validate_eq_ok_iff.1 hvalid
    simp only [hload, Config.ofFileBytes, hread, hfault]
  · have hread := Config.decode?_of_members htext hms
    have hfault := Config.validate_eq_error_iff.1 hinvalid
    refine ⟨?_, Config.exists_zero_of_fault? hfault⟩
    simp only [hload, Config.ofFileBytes, hread, hfault]
  · have hread := Config.decode?_of_repeated htext hname hcount
    simp only [hload, Config.ofFileBytes, hread]

/-! ### A file with a note -/

open Json

/-- What stands beside the settings in a file: a number and a string with an escape. -/
def note : Json := .array [.number ⟨false, 1, some ['5'], some 3⟩, .string (some "a")]

def noteText : List Char := "[1.5E+3, \"\\u0061\"] ".toList

/-- The members of a file that gives two settings, with white space of all kinds. -/
def notedFields (n : UInt32) : List Member :=
  [⟨some "max_health", .ofNat 7, " \"max_health\" ".toList, ' ' :: Text.digits 7⟩,
    ⟨some "note", note, "\n\t\"note\"".toList, noteText⟩,
    ⟨some "tile_size", .ofNat n.toNat, "\"tile_size\"".toList, Text.digits n.toNat⟩]

def notedMembers (n : UInt32) : List (String × Json) :=
  [("max_health", .ofNat 7), ("note", note), ("tile_size", .ofNat n.toNat)]

def notedText (n : UInt32) : List Char :=
  '\x7b' :: List.intercalate [','] ((notedFields n).map Member.text) ++ ['\r', '\n'] ++ ['\x7d']

lemma written_note : note.Written noteText := by
  have hfive : Digits ['5'] := ⟨by simp, List.forall_mem_singleton.2 rfl⟩
  have hthree : Digits ['3'] := ⟨by simp, List.forall_mem_singleton.2 rfl⟩
  have hfraction : FractionText (some ['5']) ['.', '5'] := .point hfive
  have hexponent : ExponentText (some 3) ['E', '+', '3'] :=
    @ExponentText.plus 'E' ['3'] (by decide) hthree
  have hwhole : Text.digits 1 = ['1'] := by decide +kernel
  have hnumber : NumberText ⟨false, 1, some ['5'], some 3⟩ "1.5E+3".toList := by
    have h : NumberText ⟨false, 1, some ['5'], some 3⟩ _ := .intro hfraction hexponent
    simpa [hwhole] using h
  have hstring : StringText (some "a") "\"\\u0061\"".toList :=
    .intro (.unit (by decide : hex4? '0' '0' '6' '1' = some 0x61) .nil)
  have helements : ∀ e ∈ [(number ⟨false, 1, some ['5'], some 3⟩, "1.5E+3".toList),
      (string (some "a"), " \"\\u0061\"".toList)], Written e.1 e.2 :=
    List.forall_mem_cons.2 ⟨.number hnumber,
      List.forall_mem_singleton.2 (.spaced (.string hstring) spaces_blank spaces_nil)⟩
  exact .spaced (.array helements spaces_nil) spaces_nil spaces_blank

lemma written_notedText (n : UInt32) : (record (notedMembers n)).Written (notedText n) := by
  have hindent : Spaces ['\n', '\t'] := by simp [Spaces, isSpace]
  have hend : Spaces ['\r', '\n'] := by simp [Spaces, isSpace]
  have hkeys : ∀ m ∈ notedFields n, KeyText m.key m.keyText :=
    List.forall_mem_cons.2
      ⟨.intro (stringText_writeString "max_health") spaces_blank spaces_blank,
        List.forall_mem_cons.2 ⟨.intro (stringText_writeString "note") hindent spaces_nil,
          List.forall_mem_singleton.2
            (.intro (stringText_writeString "tile_size") spaces_nil spaces_nil)⟩⟩
  have hhealth : (ofNat 7).Written (' ' :: Text.digits 7) := by
    simpa using (written_ofNat 7).spaced spaces_blank spaces_nil
  have hvalues : ∀ m ∈ notedFields n, Written m.value m.valueText :=
    List.forall_mem_cons.2 ⟨hhealth, List.forall_mem_cons.2
      ⟨written_note, List.forall_mem_singleton.2 (written_ofNat n.toNat)⟩⟩
  exact .object hkeys hvalues hend

/-- The settings that the file gives. -/
def noted (n : UInt32) : PartialConfig := { tileSize := some n, maxHealth := some 7 }

def repeated : List (Option String × Json) :=
  [(some "tile_size", .ofNat 16), (some "tile_size", .ofNat 16)]

/-- With a tile size the file holds valid settings, with zero for one it does not, and a file that
gives it twice is unreadable. -/
theorem load_partial_noted :
    (∃ s : SettingsStore, s.file = some (Text.Utf8.encode (notedText 16)) ∧
        s.load = .ok { tileSize := 16, maxHealth := 7 }) ∧
      (∃ s : SettingsStore, s.file = some (Text.Utf8.encode (notedText 0)) ∧
        s.load = .error (.invalid (.zero "tile_size"))) ∧
      ∃ s : SettingsStore, s.file = some (Text.Utf8.encode (object repeated).compact) ∧
        s.load = .error .unreadable := by
  have hperm : ∀ n, ((notedMembers n).filter (·.1 ∈ Config.keys)).Perm (noted n).members :=
    fun n => .swap _ _ []
  have hrepeated : (object repeated).Written (object repeated).compact :=
    written_compact (.object (by simp [repeated]) (by simp [repeated]))
  refine ⟨⟨⟨[(fileName, Text.Utf8.encode (notedText 16))]⟩, rfl, ?_⟩,
    ⟨⟨[(fileName, Text.Utf8.encode (notedText 0))]⟩, rfl, ?_⟩,
    ⟨⟨[(fileName, Text.Utf8.encode (object repeated).compact)]⟩, rfl, ?_⟩⟩
  · exact ((load_partial rfl).1 (noted 16) _ (written_notedText 16) (hperm 16)).1 rfl
  · exact (((load_partial rfl).1 (noted 0) _ (written_notedText 0) (hperm 0)).2 _ rfl).1
  · exact (load_partial rfl).2 repeated "tile_size" hrepeated (by decide) (by decide)

end SettingsStore

end GridScript
