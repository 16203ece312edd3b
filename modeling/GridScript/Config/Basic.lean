import GridScript.Motion.Time

/-!
The settings of a game, and what makes them valid.
-/

namespace GridScript

structure Config where
  tileSize : UInt32 := 64
  actionDelay : Millis := 300
  moveSpeed : UInt32 := 3
  frameDelay : Millis := 100
  defaultWait : Millis := 1000
  damagePerError : UInt32 := 1
  maxHealth : UInt32 := 5
  maxRepeat : UInt32 := 1000
deriving DecidableEq, Repr

/-- A setting that has to be positive is zero. -/
inductive ConfigError where
  | zero (setting : String)
deriving DecidableEq, Repr

def ConfigError.message : ConfigError → String
  | zero setting => setting ++ " must be greater than zero"

namespace Config

/-- The settings that have to be positive, in the order in which they are checked. -/
def positives (c : Config) : List (String × UInt32) :=
  [("tile_size", c.tileSize), ("move_speed", c.moveSpeed), ("damage_per_error", c.damagePerError),
    ("max_health", c.maxHealth), ("max_repeat", c.maxRepeat)]

/-- The first fault of the settings. -/
def fault? (c : Config) : Option ConfigError :=
  (c.positives.find? fun s => s.2 == 0).map fun s => .zero s.1

def validate (c : Config) : Except ConfigError Unit :=
  match c.fault? with
  | some e => .error e
  | none => .ok ()

end Config

/-- The highest command speed. -/
def maxSpeedLevel : Nat := 10

/-- The delay between actions at a command speed. Speeds beyond the ends count as the ends. -/
def speedDelay (level : UInt8) : Millis :=
  (550 - 50 * max 1 (min level.toNat maxSpeedLevel)).toUInt64

end GridScript
