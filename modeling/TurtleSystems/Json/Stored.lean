import TurtleSystems.Config
import TurtleSystems.Json.Decoder
import TurtleSystems.LSystem

/-!
# Stored values

How rules, systems, symbols, drawings and settings are stored as JSON, and how
they are read back.
-/

namespace TurtleSystems

open Json

namespace Rule

def toJson (rule : Rule) : Value :=
  .record [("pattern", .string rule.pattern),
    ("replacement", .string rule.replacement)]

/-- Read a rule.  Its sides are checked when both are known. -/
def ofJson : Decoder Rule :=
  Decoder.record "RawRule"
    [Decoder.field "pattern" Decoder.text,
      Decoder.field "replacement" Decoder.text]
    fun found => do
      let pattern ← Decoder.required found "pattern" Decoder.text
      let replacement ← Decoder.required found "replacement" Decoder.text
      match Rule.make pattern replacement with
      | .ok rule => return rule
      | .error fault => throw (.rule fault)

end Rule

namespace LSystem

def toJson (system : LSystem) : Value :=
  .record [("name", .string system.name),
    ("seed", match system.seed with
      | none => .null
      | some seed => .string seed),
    ("rules", .array (system.rules.map Rule.toJson))]

/-- Read a system.  An object may leave out the seed. -/
def ofJson : Decoder LSystem :=
  Decoder.record "System"
    [Decoder.field "name" Decoder.text,
      Decoder.field "seed" (Decoder.optional Decoder.text),
      Decoder.field "rules" (Decoder.list Rule.ofJson)]
    fun found => do
      let name ← Decoder.required found "name" Decoder.text
      let seed ← Decoder.withDefault found "seed"
        (Decoder.optional Decoder.text) none
      let rules ← Decoder.required found "rules" (Decoder.list Rule.ofJson)
      return ⟨name, seed, rules⟩

end LSystem

namespace Symbol

/-- A symbol as a JSON value: its name, or an object with the mark of an inert
one. -/
def toJson : Symbol → Value
  | draw => .literal "Draw"
  | move => .literal "Move"
  | left => .literal "Left"
  | right => .literal "Right"
  | inert mark => .record [("Inert", .string [mark])]

def variantNames : List String := ["Draw", "Move", "Left", "Right", "Inert"]

/-- The symbol without a mark that has a name, or nothing for the inert
one. -/
def ofName (name : Text) : Except Fault (Option Symbol) :=
  if name = "Draw".toList then .ok (some draw)
  else if name = "Move".toList then .ok (some move)
  else if name = "Left".toList then .ok (some left)
  else if name = "Right".toList then .ok (some right)
  else if name = "Inert".toList then .ok none
  else .error (.unknownVariant name variantNames)

def ofJson : Decoder Symbol
  | .string name => do
    match ← ofName name with
    | some symbol => return symbol
    | none => throw (.invalidType .unitVariant "newtype variant")
  | .object ((.string name, value) :: others) => do
    let symbol ← match ← ofName name with
      | some symbol => (Decoder.unit value).map fun _ => symbol
      | none => (Decoder.character value).map inert
    if others.isEmpty then return symbol else throw .malformed
  | _ => throw .malformed

end Symbol

namespace Point

def toJson (point : Point Float) : Value :=
  .record [("x", .float point.x), ("y", .float point.y)]

def ofJson : Decoder (Point Float) :=
  Decoder.record "Point"
    [Decoder.field "x" Decoder.float, Decoder.field "y" Decoder.float]
    fun found => do
      let x ← Decoder.required found "x" Decoder.float
      let y ← Decoder.required found "y" Decoder.float
      return ⟨x, y⟩

end Point

namespace Segment

def toJson (segment : Segment Float) : Value :=
  .record [("start", segment.start.toJson), ("end", segment.stop.toJson)]

def ofJson : Decoder (Segment Float) :=
  Decoder.record "Segment"
    [Decoder.field "start" Point.ofJson, Decoder.field "end" Point.ofJson]
    fun found => do
      let start ← Decoder.required found "start" Point.ofJson
      let stop ← Decoder.required found "end" Point.ofJson
      return ⟨start, stop⟩

end Segment

namespace ViewBox

def toJson (box : ViewBox Float) : Value :=
  .record [("min_x", .float box.minX), ("min_y", .float box.minY),
    ("width", .float box.width), ("height", .float box.height)]

def ofJson : Decoder (ViewBox Float) :=
  Decoder.record "ViewBox"
    [Decoder.field "min_x" Decoder.float, Decoder.field "min_y" Decoder.float,
      Decoder.field "width" Decoder.float,
      Decoder.field "height" Decoder.float]
    fun found => do
      let minX ← Decoder.required found "min_x" Decoder.float
      let minY ← Decoder.required found "min_y" Decoder.float
      let width ← Decoder.required found "width" Decoder.float
      let height ← Decoder.required found "height" Decoder.float
      return ⟨minX, minY, width, height⟩

end ViewBox

namespace Turtle

def toJson (turtle : Turtle Float) : Value :=
  .record [("step_length", .float turtle.stepLength),
    ("turn_angle", .float turtle.turnAngle)]

def ofJson : Decoder (Turtle Float) :=
  Decoder.record "Turtle"
    [Decoder.field "step_length" Decoder.float,
      Decoder.field "turn_angle" Decoder.float]
    fun found => do
      let stepLength ← Decoder.required found "step_length" Decoder.float
      let turnAngle ← Decoder.required found "turn_angle" Decoder.float
      return ⟨stepLength, turnAngle⟩

end Turtle

namespace Pose

def toJson (pose : Pose Float) : Value :=
  .record [("position", pose.position.toJson), ("heading", .float pose.heading)]

def ofJson : Decoder (Pose Float) :=
  Decoder.record "TurtleState"
    [Decoder.field "position" Point.ofJson,
      Decoder.field "heading" Decoder.float]
    fun found => do
      let position ← Decoder.required found "position" Point.ofJson
      let heading ← Decoder.required found "heading" Decoder.float
      return ⟨position, heading⟩

end Pose

namespace Config

def toJson (config : Config) : Value :=
  .record [("seed", .string config.seed),
    ("step_length", .float config.stepLength),
    ("turn_angle_degrees", .float config.turnAngleDegrees),
    ("growth_limit", .natural config.growthLimit),
    ("segment_cap", .natural config.segmentCap),
    ("tick_interval_ms", .natural config.tickInterval),
    ("margin", .float config.margin),
    ("search_attempts", .natural config.searchAttempts)]

/-- A size in the memory of the machine. -/
def size : Decoder Nat := Decoder.natural "usize"

def milliseconds : Decoder Nat := Decoder.natural "u64"

/-- Read settings.  Those that are left out keep their standard value. -/
def ofJson : Decoder Config :=
  Decoder.record "Config"
    [Decoder.field "seed" Decoder.text,
      Decoder.field "step_length" Decoder.float,
      Decoder.field "turn_angle_degrees" Decoder.float,
      Decoder.field "growth_limit" size,
      Decoder.field "segment_cap" size,
      Decoder.field "tick_interval_ms" milliseconds,
      Decoder.field "margin" Decoder.float,
      Decoder.field "search_attempts" size]
    (fun found => do
      let seed ← Decoder.withDefault found "seed" Decoder.text standard.seed
      let stepLength ← Decoder.withDefault found "step_length" Decoder.float
        standard.stepLength
      let turnAngleDegrees ← Decoder.withDefault found "turn_angle_degrees"
        Decoder.float standard.turnAngleDegrees
      let growthLimit ← Decoder.withDefault found "growth_limit" size
        standard.growthLimit
      let segmentCap ← Decoder.withDefault found "segment_cap" size
        standard.segmentCap
      let tickInterval ← Decoder.withDefault found "tick_interval_ms"
        milliseconds standard.tickInterval
      let margin ← Decoder.withDefault found "margin" Decoder.float
        standard.margin
      let searchAttempts ← Decoder.withDefault found "search_attempts" size
        standard.searchAttempts
      return ⟨seed, stepLength, turnAngleDegrees, growthLimit, segmentCap,
        tickInterval, margin, searchAttempts⟩)
    true

/-- Why a text does not hold settings that can be used. -/
inductive ReadFault where
  | json (fault : Json.Fault)
  | settings (fault : Fault)

/-- The sentence that explains why settings cannot be read. -/
def ReadFault.message : ReadFault → String
  | json fault => "Configuration error: " ++ fault.message
  | settings fault => fault.message

/-- Read settings from a JSON text and check them. -/
def read (input : Text) : Except ReadFault Config :=
  match ofJson.run input with
  | .error fault => .error (.json fault)
  | .ok config =>
    match config.validate with
    | .error fault => .error (.settings fault)
    | .ok () => .ok config

end Config

end TurtleSystems
