import GridScript.Main
import GridScript.Motion.Encoding
import GridScript.Session.Encoding
import GridScript.World.Encoding
import GridScript.Proofs.Motion.Fifo
import GridScript.Proofs.Script.Grammar
import GridScript.Proofs.Script.Scan
import GridScript.Proofs.Session.Effects
import GridScript.Proofs.Script.Words
import GridScript.Proofs.Script.Commands
import GridScript.Proofs.Script.Statements
import GridScript.Proofs.Grid.Cells
import GridScript.Proofs.Session.GridWalk
import GridScript.Proofs.Script.Lines
import GridScript.Proofs.Session.Inputs
import GridScript.Proofs.Session.Regrouping
import GridScript.Proofs.Script.Repeats
import GridScript.Proofs.Motion.Timing
import GridScript.Proofs.Motion.Gate
import GridScript.Proofs.Motion.Safety
import GridScript.Proofs.Session.Drain
import GridScript.Proofs.World.Collision
import GridScript.Proofs.Text.Utf8
import GridScript.Proofs.Json.Scan
import GridScript.Proofs.Json.RoundTrip
import GridScript.Proofs.Json.Shape
import GridScript.Proofs.Script.Encoding
import GridScript.Proofs.Config.Store
import GridScript.Proofs.World.Encoding
import GridScript.Proofs.Motion.Line
import GridScript.Proofs.Motion.Settings
import GridScript.Proofs.Session.Unfolding
import GridScript.Proofs.Session.Consistency
import GridScript.Proofs.Session.Course
import GridScript.Proofs.Session.Settings
import GridScript.Proofs.Session.Renewal
import GridScript.Proofs.Session.Changes
import GridScript.Proofs.Session.Health
import GridScript.Proofs.Session.Clock
import GridScript.Proofs.Script.Writing
import GridScript.Proofs.Session.Joining
import GridScript.Proofs.CommandLine.Check
import GridScript.Proofs.CommandLine.Turns
import GridScript.Proofs.Session.Barriers
import GridScript.Proofs.World.Hitbox
import GridScript.Proofs.Session.Claiming
import GridScript.Proofs.Script.Limits
import GridScript.Proofs.Session.Workload
import GridScript.Proofs.Session.Penalty
import GridScript.Proofs.Session.Drift
import GridScript.Proofs.Grid.Points
import GridScript.Proofs.Grid.MapText
import GridScript.Proofs.World.MapEdits
import GridScript.Proofs.Config.Partial
import GridScript.Proofs.Script.Faults
import GridScript.Proofs.Script.Keywords
import GridScript.Proofs.Motion.Cadence
import GridScript.Proofs.CommandLine.Account
import GridScript.Proofs.Session.Scoping
import GridScript.Proofs.World.Lookup
