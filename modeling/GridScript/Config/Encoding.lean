import GridScript.Config.Basic
import GridScript.Json.Shape

/-!
Settings as JSON. Settings that are not there keep their default.
-/

namespace GridScript.Config

/-- The names of the settings, in the order in which they are written. -/
def keys : List String :=
  ["tile_size", "action_delay_ms", "move_speed", "frame_delay_ms", "default_wait_ms",
    "damage_per_error", "max_health", "max_repeat"]

def toJson (c : Config) : Json :=
  Json.record
    [("tile_size", Json.ofNat c.tileSize.toNat), ("action_delay_ms", Json.ofNat c.actionDelay.toNat),
      ("move_speed", Json.ofNat c.moveSpeed.toNat), ("frame_delay_ms", Json.ofNat c.frameDelay.toNat),
      ("default_wait_ms", Json.ofNat c.defaultWait.toNat),
      ("damage_per_error", Json.ofNat c.damagePerError.toNat),
      ("max_health", Json.ofNat c.maxHealth.toNat), ("max_repeat", Json.ofNat c.maxRepeat.toNat)]

/-- A setting if it is there, else its default. -/
def setting? (f : Json → Option α) (default : α) : Option Json → Option α
  | some j => f j
  | none => some default

def ofJson? (room : Nat) (j : Json) : Option Config := do
  let [tileSize, actionDelay, moveSpeed, frameDelay, defaultWait, damagePerError, maxHealth,
    maxRepeat] ← j.openRecord? room keys | none
  let c : Config := {}
  pure
    { tileSize := ← setting? Json.asWord32? c.tileSize tileSize
      actionDelay := ← setting? Json.asWord64? c.actionDelay actionDelay
      moveSpeed := ← setting? Json.asWord32? c.moveSpeed moveSpeed
      frameDelay := ← setting? Json.asWord64? c.frameDelay frameDelay
      defaultWait := ← setting? Json.asWord64? c.defaultWait defaultWait
      damagePerError := ← setting? Json.asWord32? c.damagePerError damagePerError
      maxHealth := ← setting? Json.asWord32? c.maxHealth maxHealth
      maxRepeat := ← setting? Json.asWord32? c.maxRepeat maxRepeat }

end GridScript.Config
