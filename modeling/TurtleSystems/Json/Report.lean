import TurtleSystems.Analysis
import TurtleSystems.Animation
import TurtleSystems.Json.Stored

/-!
# Reports as JSON

Analyses and frames are written as JSON for other programs; they are not read
back.
-/

namespace TurtleSystems

open Json

/-- The growth of a derivation as a JSON value. -/
def Growth.toJson : Growth → Value
  | growing => .literal "Growing"
  | fixedPoint depth =>
    .record [("FixedPoint", .record [("depth", .natural depth)])]
  | limitExceeded depth =>
    .record [("LimitExceeded", .record [("depth", .natural depth)])]

/-- The report on a rule as a JSON value. -/
def RuleReport.toJson (report : RuleReport) : Value :=
  .record [("rule", .string report.rule),
    ("seed_matches", .natural report.seedMatches),
    ("step_matches", match report.stepMatches with
      | none => .null
      | some count => .natural count)]

def Analysis.toJson (analysis : Analysis) : Value :=
  .record [("live", .boolean analysis.live),
    ("rules", .array (analysis.rules.map RuleReport.toJson)),
    ("growth", analysis.growth.toJson),
    ("lengths", .array (analysis.lengths.map Value.natural))]

def Frame.toJson (frame : Frame) : Value :=
  .record [("depth", .natural frame.depth),
    ("program", .string frame.program),
    ("segments", .array (frame.segments.map Segment.toJson)),
    ("bounds", match frame.bounds with
      | none => .null
      | some box => box.toJson)]

end TurtleSystems
