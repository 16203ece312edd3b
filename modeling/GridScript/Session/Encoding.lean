import GridScript.Json.Shape
import GridScript.Session.Submission

/-!
Reports as JSON. The errors of a report are not written.
-/

namespace GridScript.Report

def toJson (r : Report) : Json :=
  Json.record
    [("success", Json.bool r.success), ("staged", Json.ofNat r.staged),
      ("damaged", Json.bool r.damaged)]

/-- Reads a report; it has no errors then. -/
def ofJson? (room : Nat) (j : Json) : Option Report := do
  let [success, staged, damaged] ← j.record? room ["success", "staged", "damaged"] | none
  pure ⟨← success.asBool?, [], ← staged.asNat64?, ← damaged.asBool?⟩

end GridScript.Report
