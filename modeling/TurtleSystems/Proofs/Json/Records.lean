import TurtleSystems.Json.Stored
import TurtleSystems.Proofs.Json.Decoder
import TurtleSystems.Proofs.Json.Reader

/-!
# Decoding each stored record

What a rule, a system, a symbol, a part of a drawing or settings are read from,
by the values of their fields.  The sides of a rule are also read without
being checked, so that it can be said which texts have a rule and which do not.
-/

namespace TurtleSystems

open Json Decoder

namespace Json

variable {α : Type}

theorem Value.mapFloats_record (change : Float → Value)
    (entries : List (String × Value)) :
    (record entries).mapFloats change =
      record (entries.map fun entry =>
        (entry.1, entry.2.mapFloats change)) := by
  simp [record]

theorem Value.isWritable_record {entries : List (String × Value)}
    (each : ∀ entry ∈ entries, IsWritable entry.2) :
    IsWritable (record entries) := by
  have fieldsEq : record entries =
      .object ((entries.map fun entry => (entry.1.toList, entry.2)).map
        fun field => (.string field.1, field.2)) := by
    simp [record, Function.comp_def]
  rw [fieldsEq]
  refine .object fun field member => ?_
  obtain ⟨entry, present, rfl⟩ := List.mem_map.mp member
  exact each entry present

/-- All items of a list are decoded. -/
theorem Decoder.list_array_eq_ok_iff {decode : Decoder α} {items : List Value}
    {results : List α} :
    Decoder.list decode (.array items) = .ok results ↔
      items.map decode = results.map .ok := by
  change items.mapM decode = .ok results ↔ _
  induction items generalizing results with
  | nil => simp [pure, Except.pure, eq_comm]
  | cons item items ih =>
      simp only [List.mapM_cons, bind_eq_ok, ih]
      cases results with
      | nil => simp [pure, Except.pure]
      | cons result results => simp [pure, Except.pure]

/-- When one decoder reads what another one reads, changed by a function, so do
the decoders of lists. -/
theorem Decoder.list_eq_ok_iff_map {β : Type} {decode : Decoder α}
    {other : Decoder β} {change : α → β} {value : Value} {results : List α}
    (each : ∀ value result,
      decode value = .ok result ↔ other value = .ok (change result)) :
    Decoder.list decode value = .ok results ↔
      Decoder.list other value = .ok (results.map change) := by
  cases value with
  | array items =>
      rw [list_array_eq_ok_iff, list_array_eq_ok_iff]
      induction items generalizing results with
      | nil => cases results <;> simp
      | cons item items ih =>
          cases results with
          | nil => simp
          | cons result results => simp [each, ih]
  | _ => simp [Decoder.list, refuse_ne_ok]

end Json

namespace Rule

/-- Two texts that are stored as the sides of a rule, whether they can be that
or not. -/
@[ext]
structure Sides where
  pattern : Text
  replacement : Text
  deriving DecidableEq

namespace Sides

/-- The sides of a rule are not empty and not equal. -/
structure AreSound (sides : Sides) : Prop where
  pattern_ne_nil : sides.pattern ≠ []
  replacement_ne_nil : sides.replacement ≠ []
  pattern_ne_replacement : sides.pattern ≠ sides.replacement

/-- Read two sides without a check. -/
def ofJson : Decoder Sides :=
  Decoder.record "RawRule"
    [Decoder.field "pattern" Decoder.text,
      Decoder.field "replacement" Decoder.text]
    fun found => do
      let pattern ← Decoder.required found "pattern" Decoder.text
      let replacement ← Decoder.required found "replacement" Decoder.text
      return ⟨pattern, replacement⟩

theorem ofJson_eq_ok_iff {value : Value} {sides : Sides} :
    ofJson value = .ok sides ↔
      ∃ found, collect false ["pattern", "replacement"] value = .ok found ∧
        required found "pattern" Decoder.text = .ok sides.pattern ∧
        required found "replacement" Decoder.text =
          .ok sides.replacement := by
  rw [ofJson, record_eq_ok_iff (by decide)]
  · simp [bind_eq_ok, pure, Except.pure, Sides.ext_iff]
  · intro found sides built
    simp only [bind_eq_ok] at built
    obtain ⟨_, patternRead, _, replacementRead, -⟩ := built
    exact ((passes_nil found).required replacementRead).required patternRead

end Sides

def sides (rule : Rule) : Sides := ⟨rule.pattern, rule.replacement⟩

theorem sides_areSound (rule : Rule) : rule.sides.AreSound :=
  ⟨rule.pattern_ne_nil, rule.replacement_ne_nil, rule.pattern_ne_replacement⟩

theorem exists_of_areSound {sides : Sides} (sound : sides.AreSound) :
    ∃ rule : Rule, rule.sides = sides :=
  ⟨⟨sides.pattern, sides.replacement, sound.pattern_ne_nil,
    sound.replacement_ne_nil, sound.pattern_ne_replacement⟩, rfl⟩

variable {value : Value} {rule : Rule}

theorem make_eq_ok_iff {pattern replacement : Text} :
    make pattern replacement = .ok rule ↔
      rule.pattern = pattern ∧ rule.replacement = replacement := by
  constructor
  · exact sides_of_make
  · rintro ⟨rfl, rfl⟩
    exact make_sides rule

/-- A rule is read where its sides are. -/
theorem ofJson_eq_ok_iff :
    ofJson value = .ok rule ↔ Sides.ofJson value = .ok rule.sides := by
  rw [ofJson, record_eq_ok_iff (by decide), Sides.ofJson_eq_ok_iff]
  · refine exists_congr fun found => and_congr_right fun _ => ?_
    simp only [bind_eq_ok]
    constructor
    · rintro ⟨pattern, patternRead, replacement, replacementRead, built⟩
      split at built
      · next made =>
          cases built
          obtain ⟨rfl, rfl⟩ := make_eq_ok_iff.mp made
          exact ⟨patternRead, replacementRead⟩
      · cases built
    · rintro ⟨patternRead, replacementRead⟩
      refine ⟨_, patternRead, _, replacementRead, ?_⟩
      simp only [sides, make_sides]
      rfl
  · intro found rule built
    simp only [bind_eq_ok] at built
    obtain ⟨_, patternRead, _, replacementRead, -⟩ := built
    exact ((passes_nil found).required replacementRead).required patternRead

theorem run_eq_ok_iff {text : Text} :
    ofJson.run text = .ok rule ↔ Sides.ofJson.run text = .ok rule.sides := by
  rw [Decoder.run_eq_ok_iff, Decoder.run_eq_ok_iff, ofJson_eq_ok_iff]

/-- A text with two sides has a rule just when the sides are sound. -/
theorem exists_run_eq_ok_iff {text : Text} {sides : Sides}
    (read : Sides.ofJson.run text = .ok sides) :
    (∃ rule, ofJson.run text = .ok rule) ↔ sides.AreSound := by
  constructor
  · rintro ⟨rule, ruleRead⟩
    rw [run_eq_ok_iff, read, Except.ok.injEq] at ruleRead
    exact ruleRead ▸ rule.sides_areSound
  · intro sound
    obtain ⟨rule, rfl⟩ := exists_of_areSound sound
    exact ⟨rule, run_eq_ok_iff.mpr read⟩

theorem ofJson_toJson (rule : Rule) : ofJson rule.toJson = .ok rule := by
  rw [ofJson_eq_ok_iff, Sides.ofJson_eq_ok_iff, toJson,
    exists_collect_record_iff (by decide) (by rfl)]
  simp [required_eq_ok_iff, List.lookup_cons, Decoder.text, sides]

end Rule

namespace LSystem

/-- The parts of a stored system, with sides that need not be sound. -/
@[ext]
structure Parts where
  name : Text
  seed : Option Text
  rules : List Rule.Sides
  deriving DecidableEq

/-- Read the parts of a system without checking the sides of its rules. -/
def Parts.ofJson : Decoder Parts :=
  Decoder.record "System"
    [Decoder.field "name" Decoder.text,
      Decoder.field "seed" (Decoder.optional Decoder.text),
      Decoder.field "rules" (Decoder.list Rule.Sides.ofJson)]
    fun found => do
      let name ← Decoder.required found "name" Decoder.text
      let seed ← Decoder.withDefault found "seed"
        (Decoder.optional Decoder.text) none
      let rules ← Decoder.required found "rules"
        (Decoder.list Rule.Sides.ofJson)
      return ⟨name, seed, rules⟩

variable {value name seed rules : Value} {system : LSystem}

theorem Parts.ofJson_eq_ok_iff {parts : Parts} :
    Parts.ofJson value = .ok parts ↔
      ∃ found, collect false ["name", "seed", "rules"] value = .ok found ∧
        required found "name" Decoder.text = .ok parts.name ∧
        withDefault found "seed" (Decoder.optional Decoder.text) none =
          .ok parts.seed ∧
        required found "rules" (Decoder.list Rule.Sides.ofJson) =
          .ok parts.rules := by
  rw [Parts.ofJson, record_eq_ok_iff (by decide)]
  · simp [bind_eq_ok, pure, Except.pure, Parts.ext_iff]
  · intro found parts built
    simp only [bind_eq_ok] at built
    obtain ⟨_, nameRead, _, seedRead, _, rulesRead, -⟩ := built
    exact (((passes_nil found).required rulesRead).withDefault
      seedRead).required nameRead

theorem ofJson_eq_ok_iff_fields :
    ofJson value = .ok system ↔
      ∃ found, collect false ["name", "seed", "rules"] value = .ok found ∧
        required found "name" Decoder.text = .ok system.name ∧
        withDefault found "seed" (Decoder.optional Decoder.text) none =
          .ok system.seed ∧
        required found "rules" (Decoder.list Rule.ofJson) =
          .ok system.rules := by
  rw [ofJson, record_eq_ok_iff (by decide)]
  · simp [bind_eq_ok, pure, Except.pure, LSystem.ext_iff]
  · intro found system built
    simp only [bind_eq_ok] at built
    obtain ⟨_, nameRead, _, seedRead, _, rulesRead, -⟩ := built
    exact (((passes_nil found).required rulesRead).withDefault
      seedRead).required nameRead

def parts (system : LSystem) : Parts :=
  ⟨system.name, system.seed, system.rules.map Rule.sides⟩

/-- A system is read where its parts are. -/
theorem ofJson_eq_ok_iff :
    ofJson value = .ok system ↔ Parts.ofJson value = .ok system.parts := by
  rw [ofJson_eq_ok_iff_fields, Parts.ofJson_eq_ok_iff]
  simp only [required_eq_ok_iff,
    Decoder.list_eq_ok_iff_map fun _ _ => Rule.ofJson_eq_ok_iff, parts]

theorem run_eq_ok_iff {text : Text} :
    ofJson.run text = .ok system ↔
      Parts.ofJson.run text = .ok system.parts := by
  rw [Decoder.run_eq_ok_iff, Decoder.run_eq_ok_iff, ofJson_eq_ok_iff]

theorem exists_rules_of_areSound {sides : List Rule.Sides}
    (sound : ∀ each ∈ sides, each.AreSound) :
    ∃ rules : RuleSet, rules.map Rule.sides = sides := by
  induction sides with
  | nil => exact ⟨[], rfl⟩
  | cons first sides ih =>
      obtain ⟨firstSound, othersSound⟩ := List.forall_mem_cons.mp sound
      obtain ⟨rule, rfl⟩ := Rule.exists_of_areSound firstSound
      obtain ⟨rules, rfl⟩ := ih othersSound
      exact ⟨rule :: rules, rfl⟩

/-- A text with the parts of a system has a system just when all sides of its
rules are sound. -/
theorem exists_run_eq_ok_iff {text : Text} {parts : Parts}
    (read : Parts.ofJson.run text = .ok parts) :
    (∃ system, ofJson.run text = .ok system) ↔
      ∀ sides ∈ parts.rules, sides.AreSound := by
  constructor
  · rintro ⟨system, systemRead⟩
    rw [run_eq_ok_iff, read, Except.ok.injEq] at systemRead
    rw [systemRead]
    exact List.forall_mem_map.mpr fun rule _ => rule.sides_areSound
  · intro sound
    obtain ⟨rules, rulesEq⟩ := exists_rules_of_areSound sound
    refine ⟨⟨parts.name, parts.seed, rules⟩, run_eq_ok_iff.mpr ?_⟩
    rw [read, LSystem.parts, rulesEq]

theorem ofJson_toJson (system : LSystem) :
    ofJson system.toJson = .ok system := by
  have rulesRead : Decoder.list Rule.ofJson
      (.array (system.rules.map Rule.toJson)) = .ok system.rules := by
    rw [Decoder.list_array_eq_ok_iff, List.map_map]
    exact List.map_congr_left fun rule _ => Rule.ofJson_toJson rule
  rw [ofJson_eq_ok_iff_fields, toJson,
    exists_collect_record_iff (by decide) (by rfl)]
  simp only [required_eq_ok_iff, withDefault_eq_ok_iff]
  refine ⟨⟨_, rfl, rfl⟩, .inr ⟨_, rfl, ?_⟩, ⟨_, rfl, rulesRead⟩⟩
  cases system.seed <;> rfl

end LSystem

namespace Point

variable {value x y : Value} {point : Point Float}

theorem ofJson_eq_ok_iff :
    ofJson value = .ok point ↔
      ∃ found, collect false ["x", "y"] value = .ok found ∧
        required found "x" Decoder.float = .ok point.x ∧
        required found "y" Decoder.float = .ok point.y := by
  rw [ofJson, record_eq_ok_iff (by decide)]
  · simp [bind_eq_ok, pure, Except.pure, Point.ext_iff]
  · intro found point built
    simp only [bind_eq_ok] at built
    obtain ⟨_, xRead, _, yRead, -⟩ := built
    exact ((passes_nil found).required yRead).required xRead

theorem ofJson_record :
    ofJson (.record [("x", x), ("y", y)]) = .ok point ↔
      Decoder.float x = .ok point.x ∧ Decoder.float y = .ok point.y := by
  rw [ofJson_eq_ok_iff, exists_collect_record_iff (by decide) (by rfl)]
  simp [required_eq_ok_iff, List.lookup_cons]

end Point

namespace Segment

variable {value start stop : Value} {segment : Segment Float}

theorem ofJson_eq_ok_iff :
    ofJson value = .ok segment ↔
      ∃ found, collect false ["start", "end"] value = .ok found ∧
        required found "start" Point.ofJson = .ok segment.start ∧
        required found "end" Point.ofJson = .ok segment.stop := by
  rw [ofJson, record_eq_ok_iff (by decide)]
  · simp [bind_eq_ok, pure, Except.pure, Segment.ext_iff]
  · intro found segment built
    simp only [bind_eq_ok] at built
    obtain ⟨_, startRead, _, stopRead, -⟩ := built
    exact ((passes_nil found).required stopRead).required startRead

theorem ofJson_record :
    ofJson (.record [("start", start), ("end", stop)]) = .ok segment ↔
      Point.ofJson start = .ok segment.start ∧
        Point.ofJson stop = .ok segment.stop := by
  rw [ofJson_eq_ok_iff, exists_collect_record_iff (by decide) (by rfl)]
  simp [required_eq_ok_iff, List.lookup_cons]

end Segment

namespace ViewBox

variable {value minX minY width height : Value} {box : ViewBox Float}

theorem ofJson_eq_ok_iff :
    ofJson value = .ok box ↔
      ∃ found, collect false ["min_x", "min_y", "width", "height"] value =
          .ok found ∧
        required found "min_x" Decoder.float = .ok box.minX ∧
        required found "min_y" Decoder.float = .ok box.minY ∧
        required found "width" Decoder.float = .ok box.width ∧
        required found "height" Decoder.float = .ok box.height := by
  rw [ofJson, record_eq_ok_iff (by decide)]
  · simp [bind_eq_ok, pure, Except.pure, ViewBox.ext_iff]
  · intro found box built
    simp only [bind_eq_ok] at built
    obtain ⟨_, minXRead, _, minYRead, _, widthRead, _, heightRead, -⟩ :=
      built
    exact ((((passes_nil found).required heightRead).required
      widthRead).required minYRead).required minXRead

theorem ofJson_record :
    ofJson (.record [("min_x", minX), ("min_y", minY), ("width", width),
        ("height", height)]) = .ok box ↔
      Decoder.float minX = .ok box.minX ∧
        Decoder.float minY = .ok box.minY ∧
        Decoder.float width = .ok box.width ∧
        Decoder.float height = .ok box.height := by
  rw [ofJson_eq_ok_iff, exists_collect_record_iff (by decide) (by rfl)]
  simp [required_eq_ok_iff, List.lookup_cons]

end ViewBox

namespace Turtle

variable {value stepLength turnAngle : Value} {turtle : Turtle Float}

theorem ofJson_eq_ok_iff :
    ofJson value = .ok turtle ↔
      ∃ found, collect false ["step_length", "turn_angle"] value =
          .ok found ∧
        required found "step_length" Decoder.float = .ok turtle.stepLength ∧
        required found "turn_angle" Decoder.float = .ok turtle.turnAngle := by
  rw [ofJson, record_eq_ok_iff (by decide)]
  · simp [bind_eq_ok, pure, Except.pure, Turtle.ext_iff]
  · intro found turtle built
    simp only [bind_eq_ok] at built
    obtain ⟨_, stepRead, _, turnRead, -⟩ := built
    exact ((passes_nil found).required turnRead).required stepRead

theorem ofJson_record :
    ofJson (.record [("step_length", stepLength),
        ("turn_angle", turnAngle)]) = .ok turtle ↔
      Decoder.float stepLength = .ok turtle.stepLength ∧
        Decoder.float turnAngle = .ok turtle.turnAngle := by
  rw [ofJson_eq_ok_iff, exists_collect_record_iff (by decide) (by rfl)]
  simp [required_eq_ok_iff, List.lookup_cons]

end Turtle

namespace Pose

variable {value position heading : Value} {pose : Pose Float}

theorem ofJson_eq_ok_iff :
    ofJson value = .ok pose ↔
      ∃ found, collect false ["position", "heading"] value = .ok found ∧
        required found "position" Point.ofJson = .ok pose.position ∧
        required found "heading" Decoder.float = .ok pose.heading := by
  rw [ofJson, record_eq_ok_iff (by decide)]
  · simp [bind_eq_ok, pure, Except.pure, Pose.ext_iff]
  · intro found pose built
    simp only [bind_eq_ok] at built
    obtain ⟨_, positionRead, _, headingRead, -⟩ := built
    exact ((passes_nil found).required headingRead).required positionRead

theorem ofJson_record :
    ofJson (.record [("position", position), ("heading", heading)]) =
        .ok pose ↔
      Point.ofJson position = .ok pose.position ∧
        Decoder.float heading = .ok pose.heading := by
  rw [ofJson_eq_ok_iff, exists_collect_record_iff (by decide) (by rfl)]
  simp [required_eq_ok_iff, List.lookup_cons]

end Pose

namespace Config

variable {value seed stepLength turnAngle growthLimit segmentCap tickInterval
  margin searchAttempts : Value} {config : Config}

theorem ofJson_eq_ok_iff :
    ofJson value = .ok config ↔
      ∃ found, collect true ["seed", "step_length", "turn_angle_degrees",
          "growth_limit", "segment_cap", "tick_interval_ms", "margin",
          "search_attempts"] value = .ok found ∧
        withDefault found "seed" Decoder.text standard.seed =
          .ok config.seed ∧
        withDefault found "step_length" Decoder.float standard.stepLength =
          .ok config.stepLength ∧
        withDefault found "turn_angle_degrees" Decoder.float
          standard.turnAngleDegrees = .ok config.turnAngleDegrees ∧
        withDefault found "growth_limit" size standard.growthLimit =
          .ok config.growthLimit ∧
        withDefault found "segment_cap" size standard.segmentCap =
          .ok config.segmentCap ∧
        withDefault found "tick_interval_ms" milliseconds
          standard.tickInterval = .ok config.tickInterval ∧
        withDefault found "margin" Decoder.float standard.margin =
          .ok config.margin ∧
        withDefault found "search_attempts" size standard.searchAttempts =
          .ok config.searchAttempts := by
  rw [ofJson, record_eq_ok_iff (by decide)]
  · cases config
    simp [bind_eq_ok, pure, Except.pure]
  · intro found config built
    simp only [bind_eq_ok] at built
    obtain ⟨_, seedRead, _, stepRead, _, turnRead, _, limitRead, _,
      capRead, _, tickRead, _, marginRead, _, attemptsRead, -⟩ := built
    exact ((((((((passes_nil found).withDefault attemptsRead).withDefault
      marginRead).withDefault tickRead).withDefault capRead).withDefault
        limitRead).withDefault turnRead).withDefault stepRead).withDefault
          seedRead

theorem ofJson_record :
    ofJson (.record [("seed", seed), ("step_length", stepLength),
        ("turn_angle_degrees", turnAngle), ("growth_limit", growthLimit),
        ("segment_cap", segmentCap), ("tick_interval_ms", tickInterval),
        ("margin", margin), ("search_attempts", searchAttempts)]) =
        .ok config ↔
      Decoder.text seed = .ok config.seed ∧
        Decoder.float stepLength = .ok config.stepLength ∧
        Decoder.float turnAngle = .ok config.turnAngleDegrees ∧
        size growthLimit = .ok config.growthLimit ∧
        size segmentCap = .ok config.segmentCap ∧
        milliseconds tickInterval = .ok config.tickInterval ∧
        Decoder.float margin = .ok config.margin ∧
        size searchAttempts = .ok config.searchAttempts := by
  rw [ofJson_eq_ok_iff, exists_collect_record_iff (by decide) (by rfl)]
  simp [withDefault_eq_ok_iff, List.lookup_cons]

end Config

theorem Symbol.ofJson_toJson (symbol : Symbol) :
    ofJson symbol.toJson = .ok symbol := by
  cases symbol with
  | inert mark => rfl
  | _ => rfl

end TurtleSystems
