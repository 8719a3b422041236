import TurtleSystems.Proofs.Json.Records

/-!
# Stored values come back

Whatever is stored, its text is read as the value that was stored, if its
floating-point numbers are finite and their digits are read back.  A number
that is not finite is written as `null`, and then nothing is read.  No text has
a rule whose sides are empty or equal.
-/

namespace TurtleSystems

open Json

section Floats

variable {change : Float → Value}

theorem Rule.mapFloats_toJson (rule : Rule) :
    rule.toJson.mapFloats change = rule.toJson := by
  simp [toJson, Value.mapFloats_record]

theorem LSystem.mapFloats_toJson (system : LSystem) :
    system.toJson.mapFloats change = system.toJson := by
  cases seedEq : system.seed <;>
    simp [toJson, Value.mapFloats_record, seedEq, Function.comp_def,
      Rule.mapFloats_toJson]

theorem Symbol.mapFloats_toJson (symbol : Symbol) :
    symbol.toJson.mapFloats change = symbol.toJson := by
  cases symbol <;> rfl

/-- A point is read where its two numbers are. -/
theorem Point.ofJson_mapFloats {point other : Point Float} :
    ofJson (point.toJson.mapFloats change) = .ok other ↔
      Decoder.float (change point.x) = .ok other.x ∧
        Decoder.float (change point.y) = .ok other.y := by
  simp [toJson, Value.mapFloats_record, ofJson_record]

theorem Segment.ofJson_mapFloats {segment other : Segment Float} :
    ofJson (segment.toJson.mapFloats change) = .ok other ↔
      Point.ofJson (segment.start.toJson.mapFloats change) =
          .ok other.start ∧
        Point.ofJson (segment.stop.toJson.mapFloats change) =
          .ok other.stop := by
  simp [toJson, Value.mapFloats_record, ofJson_record]

theorem ViewBox.ofJson_mapFloats {box other : ViewBox Float} :
    ofJson (box.toJson.mapFloats change) = .ok other ↔
      Decoder.float (change box.minX) = .ok other.minX ∧
        Decoder.float (change box.minY) = .ok other.minY ∧
        Decoder.float (change box.width) = .ok other.width ∧
        Decoder.float (change box.height) = .ok other.height := by
  simp [toJson, Value.mapFloats_record, ofJson_record]

theorem Turtle.ofJson_mapFloats {turtle other : Turtle Float} :
    ofJson (turtle.toJson.mapFloats change) = .ok other ↔
      Decoder.float (change turtle.stepLength) = .ok other.stepLength ∧
        Decoder.float (change turtle.turnAngle) = .ok other.turnAngle := by
  simp [toJson, Value.mapFloats_record, ofJson_record]

theorem Pose.ofJson_mapFloats {pose other : Pose Float} :
    ofJson (pose.toJson.mapFloats change) = .ok other ↔
      Point.ofJson (pose.position.toJson.mapFloats change) =
          .ok other.position ∧
        Decoder.float (change pose.heading) = .ok other.heading := by
  simp [toJson, Value.mapFloats_record, ofJson_record]

theorem Json.Decoder.natural_natural (wanted : String) (number : Nat) :
    Decoder.natural wanted (.natural number) = .ok number := by
  simp [Decoder.natural, Value.natural]

theorem Config.ofJson_mapFloats {config other : Config} :
    ofJson (config.toJson.mapFloats change) = .ok other ↔
      config.seed = other.seed ∧
        Decoder.float (change config.stepLength) = .ok other.stepLength ∧
        Decoder.float (change config.turnAngleDegrees) =
          .ok other.turnAngleDegrees ∧
        config.growthLimit = other.growthLimit ∧
        config.segmentCap = other.segmentCap ∧
        config.tickInterval = other.tickInterval ∧
        Decoder.float (change config.margin) = .ok other.margin ∧
        config.searchAttempts = other.searchAttempts := by
  simp [toJson, Value.mapFloats_record, ofJson_record, Decoder.text, size,
    milliseconds, Decoder.natural_natural]

end Floats

/-- A kind of value is stored faithfully: with integers of 64 bits it can be
written, it comes back when each of its floating-point numbers does, and each
of them must be read for anything to come back. -/
structure IsStored {α : Type} (toJson : α → Value) (ofJson : Decoder α)
    (floats : α → List Float) (integers : α → List Nat) : Prop where
  isWritable (value : α)
    (fits : ∀ integer ∈ integers value, integer < UInt64.size) :
    (toJson value).IsWritable
  ofJson_mapFloats (value : α) (change : Float → Value)
    (kept : ∀ number ∈ floats value, change number = .float number) :
    ofJson ((toJson value).mapFloats change) = .ok value
  exists_float (value other : α) (change : Float → Value)
    (read : ofJson ((toJson value).mapFloats change) = .ok other) :
    ∀ number ∈ floats value, ∃ result,
      Decoder.float (change number) = .ok result

section Kinds

open Value.IsWritable

theorem Rule.isWritable_toJson (rule : Rule) : rule.toJson.IsWritable :=
  Value.isWritable_record (by simp [string])

theorem Rule.isStored :
    IsStored toJson ofJson (fun _ => []) (fun _ => []) where
  isWritable rule _ := rule.isWritable_toJson
  ofJson_mapFloats rule change _ := by
    rw [mapFloats_toJson, ofJson_toJson]
  exists_float _ _ _ _ _ member := nomatch member

theorem LSystem.isStored :
    IsStored toJson ofJson (fun _ => []) (fun _ => []) where
  isWritable system _ := by
    have rulesWritable :
        Value.IsWritable (.array (system.rules.map Rule.toJson)) :=
      array (List.forall_mem_map.mpr fun rule _ => rule.isWritable_toJson)
    refine Value.isWritable_record ?_
    cases system.seed <;> simp [string, null, rulesWritable]
  ofJson_mapFloats system change _ := by
    rw [mapFloats_toJson, ofJson_toJson]
  exists_float _ _ _ _ _ member := nomatch member

theorem Symbol.isStored :
    IsStored toJson ofJson (fun _ => []) (fun _ => []) where
  isWritable symbol _ := by
    cases symbol with
    | inert mark => exact Value.isWritable_record (by simp [string])
    | _ => exact string _
  ofJson_mapFloats symbol change _ := by
    rw [mapFloats_toJson, ofJson_toJson]
  exists_float _ _ _ _ _ member := nomatch member

/-- The floating-point numbers of a point. -/
def Point.floats (point : Point Float) : List Float :=
  [point.x, point.y]

theorem Point.isStored : IsStored toJson ofJson floats (fun _ => []) where
  isWritable point _ := Value.isWritable_record (by simp [floating])
  ofJson_mapFloats point change kept := by
    simp only [floats, List.forall_mem_cons] at kept
    obtain ⟨xKept, yKept, -⟩ := kept
    rw [ofJson_mapFloats, xKept, yKept]
    exact ⟨rfl, rfl⟩
  exists_float point other change read := by
    obtain ⟨xRead, yRead⟩ := ofJson_mapFloats.mp read
    simp [floats, xRead, yRead]

def Segment.floats (segment : Segment Float) : List Float :=
  segment.start.floats ++ segment.stop.floats

theorem Segment.isStored : IsStored toJson ofJson floats (fun _ => []) where
  isWritable segment _ := by
    have endsWritable (point : Point Float) : point.toJson.IsWritable :=
      Point.isStored.isWritable point nofun
    exact Value.isWritable_record (by simp [endsWritable])
  ofJson_mapFloats segment change kept := by
    obtain ⟨startKept, stopKept⟩ := List.forall_mem_append.mp kept
    exact ofJson_mapFloats.mpr
      ⟨Point.isStored.ofJson_mapFloats _ change startKept,
        Point.isStored.ofJson_mapFloats _ change stopKept⟩
  exists_float segment other change read := by
    obtain ⟨startRead, stopRead⟩ := ofJson_mapFloats.mp read
    exact List.forall_mem_append.mpr
      ⟨Point.isStored.exists_float _ _ change startRead,
        Point.isStored.exists_float _ _ change stopRead⟩

def ViewBox.floats (box : ViewBox Float) : List Float :=
  [box.minX, box.minY, box.width, box.height]

theorem ViewBox.isStored : IsStored toJson ofJson floats (fun _ => []) where
  isWritable box _ := Value.isWritable_record (by simp [floating])
  ofJson_mapFloats box change kept := by
    simp only [floats, List.forall_mem_cons] at kept
    obtain ⟨minXKept, minYKept, widthKept, heightKept, -⟩ := kept
    rw [ofJson_mapFloats, minXKept, minYKept, widthKept, heightKept]
    exact ⟨rfl, rfl, rfl, rfl⟩
  exists_float box other change read := by
    obtain ⟨minXRead, minYRead, widthRead, heightRead⟩ :=
      ofJson_mapFloats.mp read
    simp [floats, minXRead, minYRead, widthRead, heightRead]

def Turtle.floats (turtle : Turtle Float) : List Float :=
  [turtle.stepLength, turtle.turnAngle]

theorem Turtle.isStored : IsStored toJson ofJson floats (fun _ => []) where
  isWritable turtle _ := Value.isWritable_record (by simp [floating])
  ofJson_mapFloats turtle change kept := by
    simp only [floats, List.forall_mem_cons] at kept
    obtain ⟨stepKept, turnKept, -⟩ := kept
    rw [ofJson_mapFloats, stepKept, turnKept]
    exact ⟨rfl, rfl⟩
  exists_float turtle other change read := by
    obtain ⟨stepRead, turnRead⟩ := ofJson_mapFloats.mp read
    simp [floats, stepRead, turnRead]

def Pose.floats (pose : Pose Float) : List Float :=
  pose.position.floats ++ [pose.heading]

theorem Pose.isStored : IsStored toJson ofJson floats (fun _ => []) where
  isWritable pose _ := by
    have positionWritable : pose.position.toJson.IsWritable :=
      Point.isStored.isWritable pose.position nofun
    exact Value.isWritable_record (by simp [positionWritable, floating])
  ofJson_mapFloats pose change kept := by
    obtain ⟨positionKept, headingKept⟩ := List.forall_mem_append.mp kept
    rw [ofJson_mapFloats, List.forall_mem_singleton.mp headingKept]
    exact ⟨Point.isStored.ofJson_mapFloats _ change positionKept, rfl⟩
  exists_float pose other change read := by
    obtain ⟨positionRead, headingRead⟩ := ofJson_mapFloats.mp read
    exact List.forall_mem_append.mpr
      ⟨Point.isStored.exists_float _ _ change positionRead,
        List.forall_mem_singleton.mpr ⟨_, headingRead⟩⟩

def Config.floats (config : Config) : List Float :=
  [config.stepLength, config.turnAngleDegrees, config.margin]

/-- The integers of some settings. -/
def Config.integers (config : Config) : List Nat :=
  [config.growthLimit, config.segmentCap, config.tickInterval,
    config.searchAttempts]

theorem Config.isStored : IsStored toJson ofJson floats integers where
  isWritable config fits := by
    have naturalWritable {number : Nat} (fits : number < UInt64.size) :
        Value.IsWritable (.natural number) :=
      integer ⟨Int.le_trans (by decide) (Int.natCast_nonneg number),
        Int.ofNat_lt.mpr fits⟩
    simp only [integers, List.forall_mem_cons] at fits
    obtain ⟨limitFits, capFits, tickFits, attemptsFits, -⟩ := fits
    exact Value.isWritable_record (by
      simp [string, floating, naturalWritable limitFits,
        naturalWritable capFits, naturalWritable tickFits,
        naturalWritable attemptsFits])
  ofJson_mapFloats config change kept := by
    simp only [floats, List.forall_mem_cons] at kept
    obtain ⟨stepKept, turnKept, marginKept, -⟩ := kept
    rw [ofJson_mapFloats, stepKept, turnKept, marginKept]
    exact ⟨rfl, rfl, rfl, rfl, rfl, rfl, rfl, rfl⟩
  exists_float config other change read := by
    obtain ⟨-, stepRead, turnRead, -, -, -, marginRead, -⟩ :=
      ofJson_mapFloats.mp read
    simp [floats, stepRead, turnRead, marginRead]

end Kinds

/-- The kinds of values that are stored. -/
inductive StoredKind where
  | rule
  | system
  | symbol
  | point
  | segment
  | viewBox
  | turtle
  | pose
  | config
  deriving DecidableEq, Repr

namespace StoredKind

/-- The values of a kind. -/
def Carrier : StoredKind → Type
  | rule => Rule
  | system => LSystem
  | symbol => Symbol
  | point => Point Float
  | segment => Segment Float
  | viewBox => ViewBox Float
  | turtle => Turtle Float
  | pose => Pose Float
  | config => Config

def toJson : (kind : StoredKind) → kind.Carrier → Value
  | rule => Rule.toJson
  | system => LSystem.toJson
  | symbol => Symbol.toJson
  | point => Point.toJson
  | segment => Segment.toJson
  | viewBox => ViewBox.toJson
  | turtle => Turtle.toJson
  | pose => Pose.toJson
  | config => Config.toJson

def ofJson : (kind : StoredKind) → Decoder kind.Carrier
  | rule => Rule.ofJson
  | system => LSystem.ofJson
  | symbol => Symbol.ofJson
  | point => Point.ofJson
  | segment => Segment.ofJson
  | viewBox => ViewBox.ofJson
  | turtle => Turtle.ofJson
  | pose => Pose.ofJson
  | config => Config.ofJson

/-- The floating-point numbers of a value. -/
def floats : (kind : StoredKind) → kind.Carrier → List Float
  | point => Point.floats
  | segment => Segment.floats
  | viewBox => ViewBox.floats
  | turtle => Turtle.floats
  | pose => Pose.floats
  | config => Config.floats
  | rule | system | symbol => fun _ => []

/-- The integers of a value. -/
def integers : (kind : StoredKind) → kind.Carrier → List Nat
  | config => Config.integers
  | _ => fun _ => []

theorem isStored (kind : StoredKind) :
    IsStored kind.toJson kind.ofJson kind.floats kind.integers := by
  cases kind with
  | rule => exact Rule.isStored
  | system => exact LSystem.isStored
  | symbol => exact Symbol.isStored
  | point => exact Point.isStored
  | segment => exact Segment.isStored
  | viewBox => exact ViewBox.isStored
  | turtle => exact Turtle.isStored
  | pose => exact Pose.isStored
  | config => exact Config.isStored

variable {kind : StoredKind} {value : kind.Carrier} {text : Text}

/-- Reading one of its texts is decoding the value with its floating-point
numbers as they are read back. -/
theorem run_of_mem_texts
    (fits : ∀ integer ∈ kind.integers value, integer < UInt64.size)
    (written : text ∈ [(kind.toJson value).compact,
      (kind.toJson value).pretty]) :
    kind.ofJson.run text =
      kind.ofJson ((kind.toJson value).mapFloats readBack) := by
  have writable := kind.isStored.isWritable value fits
  have reads : ReadsAs text ((kind.toJson value).mapFloats readBack) := by
    rcases List.mem_pair.mp written with rfl | rfl
    · exact Value.readsAs_compact writable
    · exact Value.readsAs_prettyAt writable 0
  simp only [Decoder.run, read_of_readsAs reads, if_true]
  cases kind.ofJson ((kind.toJson value).mapFloats readBack) <;> rfl

/-- Stored values come back.  With finite numbers whose digits are read back,
both texts of a value are read as that value.  A number that is not finite is
written as `null`, and then neither text is read.  And a text whose sides are
stored for a rule, alone or in a system, is read just when they are sound. -/
theorem read_written (kind : StoredKind) (value : kind.Carrier)
    (fits : ∀ integer ∈ kind.integers value, integer < UInt64.size) :
    ((∀ number ∈ kind.floats value,
        number.isFinite = true ∧ ReadsBack number) →
      ∀ text ∈ [(kind.toJson value).compact, (kind.toJson value).pretty],
        kind.ofJson.run text = .ok value) ∧
    ((∃ number ∈ kind.floats value, number.isFinite = false) →
      (kind.toJson value).compact =
          ((kind.toJson value).mapFloats Value.finiteOrNull).compact ∧
        (kind.toJson value).pretty =
          ((kind.toJson value).mapFloats Value.finiteOrNull).pretty ∧
        ∀ text ∈ [(kind.toJson value).compact, (kind.toJson value).pretty],
          ∃ fault, kind.ofJson.run text = .error fault) ∧
    (∀ text sides, Rule.Sides.ofJson.run text = .ok sides →
      ((∃ rule, Rule.ofJson.run text = .ok rule) ↔ sides.AreSound)) ∧
    (∀ text rule, Rule.ofJson.run text = .ok rule →
      Rule.Sides.ofJson.run text = .ok rule.sides) ∧
    (∀ text parts, LSystem.Parts.ofJson.run text = .ok parts →
      ((∃ system, LSystem.ofJson.run text = .ok system) ↔
        ∀ sides ∈ parts.rules, sides.AreSound)) ∧
    ∀ text system, LSystem.ofJson.run text = .ok system →
      LSystem.Parts.ofJson.run text = .ok system.parts := by
  have stored := kind.isStored
  have writable := stored.isWritable value fits
  refine ⟨fun back text written => ?_,
    fun ⟨number, member, special⟩ => ⟨?_, ?_, fun text written => ?_⟩,
    fun text sides => Rule.exists_run_eq_ok_iff,
    fun text rule => Rule.run_eq_ok_iff.mp,
    fun text parts => LSystem.exists_run_eq_ok_iff,
    fun text system => LSystem.run_eq_ok_iff.mp⟩
  · rw [run_of_mem_texts fits written]
    refine stored.ofJson_mapFloats value readBack fun number member => ?_
    obtain ⟨finite, readsBack⟩ := back number member
    exact readBack_of_readsBack finite readsBack
  · exact (Value.compact_finiteOrNull writable).symm
  · exact (Value.prettyAt_finiteOrNull writable 0).symm
  · rw [run_of_mem_texts fits written]
    cases decoded : kind.ofJson ((kind.toJson value).mapFloats readBack) with
    | error fault => exact ⟨fault, rfl⟩
    | ok other =>
        obtain ⟨result, read⟩ :=
          stored.exists_float value other readBack decoded number member
        rw [readBack_of_not_isFinite special] at read
        cases read

/-- The standard settings come back.  A point at infinity does not, and neither
does a rule with equal sides. -/
theorem read_written_standard :
    let settings := Config.standard
    let point : Point Float := ⟨1 / 0, 0⟩
    let equal := (Value.record
      [("pattern", .string ['f']), ("replacement", .string ['f'])]).compact
    (∀ integer ∈ settings.integers, integer < UInt64.size) ∧
      (∀ number ∈ settings.floats,
        number.isFinite = true ∧ ReadsBack number) ∧
      Config.ofJson.run settings.toJson.compact = .ok settings ∧
      Config.ofJson.run settings.toJson.pretty = .ok settings ∧
      (∃ number ∈ point.floats, number.isFinite = false) ∧
      (∃ fault, Point.ofJson.run point.toJson.compact = .error fault) ∧
      Rule.Sides.ofJson.run equal = .ok ⟨['f'], ['f']⟩ ∧
      ¬ ∃ rule, Rule.ofJson.run equal = .ok rule := by
  intro settings point equal
  have fits : ∀ integer ∈ settings.integers, integer < UInt64.size := by
    decide
  have back : ∀ number ∈ settings.floats,
      number.isFinite = true ∧ ReadsBack number := by
    have tenRead : Numeral.read? (numberFormat.write 10) =
        some (⟨false, ['1', '0'], ['0'], 0, true⟩, []) := by decide +kernel
    have sixtyRead : Numeral.read? (numberFormat.write 60) =
        some (⟨false, ['6', '0'], ['0'], 0, true⟩, []) := by decide +kernel
    have ten : ReadsBack 10 :=
      readsBack_of_scaled tenRead (by decide +kernel)
    have sixty : ReadsBack 60 :=
      readsBack_of_scaled sixtyRead (by decide +kernel)
    simp only [settings, Config.floats, List.forall_mem_cons]
    exact ⟨⟨by decide +kernel, ten⟩, ⟨by decide +kernel, sixty⟩,
      ⟨by decide +kernel, ten⟩, nofun⟩
  have special : ∃ number ∈ point.floats, number.isFinite = false :=
    ⟨1 / 0, by simp [Point.floats, point], by decide +kernel⟩
  have sidesRead : Rule.Sides.ofJson.run equal = .ok ⟨['f'], ['f']⟩ := rfl
  obtain ⟨settingsRead, -⟩ := read_written .config settings fits
  obtain ⟨-, pointRefused, ruleIff, -⟩ := read_written .point point nofun
  refine ⟨fits, back, settingsRead back _ (.head _),
    settingsRead back _ (.tail _ (.head _)), special,
    (pointRefused special).2.2 _ (.head _), sidesRead, ?_⟩
  rw [ruleIff _ _ sidesRead]
  exact fun sound => sound.pattern_ne_replacement rfl

end StoredKind

end TurtleSystems
