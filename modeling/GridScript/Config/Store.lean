import GridScript.Config.Encoding
import GridScript.Json.Writer
import GridScript.Text.Utf8

/-!
The settings file.

Settings are kept as indented JSON. A file that is not there stands for the defaults; what is read
from a file has to be valid settings, and nothing else is ever written.
-/

namespace GridScript

inductive SettingsError where
  /-- The file does not hold settings. -/
  | unreadable
  | invalid (e : ConfigError)
deriving DecidableEq, Repr

def SettingsError.message : SettingsError → String
  | unreadable => "Failed to deserialize settings"
  | invalid e => e.message

namespace Config

/-- The text of a settings file. -/
def fileText (c : Config) : List Char := c.toJson.pretty 0

def fileBytes (c : Config) : List UInt8 := Text.Utf8.encode c.fileText

/-- Reads the bytes of a settings file. -/
def ofFileBytes (bytes : List UInt8) : Except SettingsError Config :=
  match Json.decode? ofJson? (Text.Utf8.decode bytes) with
  | none => .error .unreadable
  | some c =>
    match c.fault? with
    | some e => .error (.invalid e)
    | none => .ok c

/-- Reads a settings file that may be missing. -/
def ofFile : Option (List UInt8) → Except SettingsError Config
  | none => .ok {}
  | some bytes => ofFileBytes bytes

end Config

/-- A settings directory: its files with their bytes. -/
structure SettingsStore where
  files : List (String × List UInt8)
deriving DecidableEq

namespace SettingsStore

def empty : SettingsStore := ⟨[]⟩

def fileName : String := "settings.json"

/-- The name of the settings file while it is written. -/
def temporaryName : String := "settings.json.tmp"

/-! ### Files -/

def get? (s : SettingsStore) (name : String) : Option (List UInt8) := s.files.lookup name

def remove (s : SettingsStore) (name : String) : SettingsStore :=
  ⟨s.files.filter fun f => f.1 != name⟩

def put (s : SettingsStore) (name : String) (bytes : List UInt8) : SettingsStore :=
  ⟨(name, bytes) :: (s.remove name).files⟩

/-- Gives a file another name; a file of that name is replaced. -/
def move (s : SettingsStore) (name target : String) : SettingsStore :=
  match s.get? name with
  | some bytes => (s.remove name).put target bytes
  | none => s

/-- The names of the files, in order. -/
def names (s : SettingsStore) : List String :=
  (s.files.map (·.1)).mergeSort fun a b => decide (a ≤ b)

/-! ### Settings -/

/-- The bytes of the settings file, if there is one. -/
def file (s : SettingsStore) : Option (List UInt8) := s.get? fileName

/-- Replaces the settings file, whatever the bytes are: they are written beside it first, so that
the file is never there in part. -/
def replace (s : SettingsStore) (bytes : List UInt8) : SettingsStore :=
  (s.put temporaryName bytes).move temporaryName fileName

def load (s : SettingsStore) : Except SettingsError Config := Config.ofFile s.file

/-- Writes settings if they are valid; otherwise the file stays as it is. -/
def write (s : SettingsStore) (c : Config) : Except ConfigError Unit × SettingsStore :=
  match c.validate with
  | .ok () => (.ok (), s.replace c.fileBytes)
  | .error e => (.error e, s)

/-- The file as text, with a replacement character for each ill-formed piece. -/
def fileText (s : SettingsStore) : Option String :=
  s.file.map fun bytes => String.ofList (Text.Utf8.decodeLossy bytes)

theorem get?_put_self (s : SettingsStore) (name : String) (bytes : List UInt8) :
    (s.put name bytes).get? name = some bytes := by
  simp [get?, put]

/-- The settings file is what was stored last. -/
theorem file_replace (s : SettingsStore) (bytes : List UInt8) :
    (s.replace bytes).file = some bytes := by
  simp only [replace, move, file, get?_put_self]

end SettingsStore

end GridScript
