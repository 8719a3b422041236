import Mathlib.Data.List.Forall2
import TurtleSystems.Path
import TurtleSystems.Proofs.Decimal.Shortest

/-!
# Reading path data

Path data is a row of commands, a move or a line to a point each.  Where the
numbers can be told apart and hold no letter of a command and no space, a text
spells at most one row of commands; double-precision numbers in drawings are
written in such a way.  Following the commands of a drawing gives the drawing
back: a start that was left out is where the segment before it stopped, which
is the same number although it may be written differently.
-/

namespace TurtleSystems

variable {α : Type} [Coordinate α]

/-- Both coordinates are numbers: what is not a number differs even from
itself. -/
def Point.IsNumber (point : Point α) : Prop :=
  point.same point = true

instance (point : Point α) : Decidable point.IsNumber :=
  inferInstanceAs (Decidable (point.same point = true))

open Float.Model in
theorem same_self_iff (number : Float) :
    Coordinate.same number number = true ↔ number.isNaN = false := by
  change number.toModel.unpack.beq number.toModel.unpack = true ↔
    number.toModel.unpack.isNaN = false
  cases number.toModel.unpack with
  | notANumber => decide
  | infinity sign | zero sign => cases sign <;> decide
  | finite sign mantissa exponent =>
      have same : (compare exponent exponent).then
          (compare mantissa mantissa) = .eq := by simp
      refine iff_of_true ?_ rfl
      cases sign with
      | positive =>
          change (some ((compare exponent exponent).then
            (compare mantissa mantissa)) == some .eq) = true
          rw [same]
          rfl
      | negative =>
          change (some ((compare exponent exponent).then
            (compare mantissa mantissa)).swap == some .eq) = true
          rw [same]
          rfl

theorem Point.isNumber_iff (point : Point Float) :
    point.IsNumber ↔ point.x.isNaN = false ∧ point.y.isNaN = false := by
  rw [IsNumber, same, Bool.and_eq_true, same_self_iff, same_self_iff]

/-- Both ends of a segment are numbers. -/
structure Segment.IsNumber (segment : Segment α) : Prop where
  start : segment.start.IsNumber
  stop : segment.stop.IsNumber

instance (segment : Segment α) : Decidable segment.IsNumber :=
  decidable_of_iff (segment.start.IsNumber ∧ segment.stop.IsNumber)
    ⟨fun ⟨start, stop⟩ => ⟨start, stop⟩, fun ⟨start, stop⟩ => ⟨start, stop⟩⟩

namespace Path

/-- A command of path data. -/
inductive Command (α : Type) where
  | move (point : Point α)
  | line (point : Point α)

namespace Command

def point : Command α → Point α
  | move point | line point => point

def isMove : Command α → Bool
  | move _ => true
  | line _ => false

def letter (command : Command α) : Char :=
  if command.isMove then 'M' else 'L'

def text (write : α → Text) (command : Command α) : Text :=
  Path.command write command.letter command.point

end Command

/-- A way of writing numbers in which different ones look different and none
has a letter of a command or a space in it. -/
structure IsLegible (write : α → Text) : Prop where
  distinct : ∀ first second, Coordinate.same first first = true →
    Coordinate.same second second = true →
      write first = write second → first = second
  plain : ∀ number, 'M' ∉ write number ∧ 'L' ∉ write number ∧
    ' ' ∉ write number

/-- A text is a row of commands, written one behind the other. -/
structure Spells (write : α → Text) (commands : List (Command α))
    (text : Text) : Prop where
  joined : commands.flatMap (Command.text write) = text
  numbers : ∀ command ∈ commands, command.point.IsNumber

/-- Follow commands from the current point, if there is one: a move changes
it, and a line draws a segment from there. -/
def drawn : Option (Point α) → List (Command α) → Option (List (Segment α))
  | _, [] => some []
  | _, .move point :: commands => drawn (some point) commands
  | none, .line _ :: _ => none
  | some start, .line stop :: commands =>
    (drawn (some stop) commands).map (⟨start, stop⟩ :: ·)

/-- The commands of a drawing, given where the segment before it stopped: a
line for each segment, and a move in front of it just where no segment is
before it or the one before it stopped elsewhere. -/
inductive Traces :
    Option (Point α) → List (Segment α) → List (Command α) → Prop where
  | nil (previous : Option (Point α)) : Traces previous [] []
  | joined {previous : Point α} {segment : Segment α}
      {segments : List (Segment α)} {commands : List (Command α)}
      (same : previous.same segment.start = true)
      (others : Traces (some segment.stop) segments commands) :
      Traces (some previous) (segment :: segments)
        (.line segment.stop :: commands)
  | apart {previous : Option (Point α)} {segment : Segment α}
      {segments : List (Segment α)} {commands : List (Command α)}
      (differs : ∀ point ∈ previous, point.same segment.start = false)
      (others : Traces (some segment.stop) segments commands) :
      Traces previous (segment :: segments)
        (.move segment.start :: .line segment.stop :: commands)

/-- A segment that was read has the end of the one that was written, and a
start that is the same number. -/
structure Restores (segment found : Segment α) : Prop where
  stop_eq : found.stop = segment.stop
  same_start : found.start.same segment.start = true

/-- Double-precision numbers are legible as they are written in drawings. -/
theorem isLegible_plain : IsLegible NumberFormat.plain.write where
  distinct := fun _ _ _ _ same => NumberFormat.write_plain_injective same
  plain := by
    intro number
    refine ⟨?_, ?_, ?_⟩ <;> intro member <;>
      exact absurd (NumberFormat.isPlain_of_mem_write member) (by decide)

variable {write : α → Text} {previous : Option (Point α)}
variable {segments : List (Segment α)} {commands others : List (Command α)}

section Spelling

omit [Coordinate α] in
/-- Behind a number there is the end or the letter of the next command. -/
theorem stops_flatMap (write : α → Text) (commands : List (Command α)) :
    Text.Stops (fun character => character != 'M' && character != 'L')
      (commands.flatMap (Command.text write)) := by
  cases commands with
  | nil => exact Text.stops_nil _
  | cons command commands =>
      cases command <;> exact Text.stops_cons_iff.mpr rfl

omit [Coordinate α] in
theorem Command.eq_of_letter_eq {command other : Command α}
    (sameLetter : command.letter = other.letter)
    (samePoint : command.point = other.point) : command = other := by
  cases command <;> cases other <;>
    simp_all [Command.letter, Command.isMove, Command.point]

theorem IsLegible.eq_of_write_eq (legible : IsLegible write)
    {first second : Point α} (firstNumber : first.IsNumber)
    (secondNumber : second.IsNumber)
    (sameX : write first.x = write second.x)
    (sameY : write first.y = write second.y) : first = second := by
  simp only [Point.IsNumber, Point.same, Bool.and_eq_true]
    at firstNumber secondNumber
  exact Point.ext
    (legible.distinct _ _ firstNumber.1 secondNumber.1 sameX)
    (legible.distinct _ _ firstNumber.2 secondNumber.2 sameY)

/-- Two commands in front of two rows of commands are the same: the space ends
the first number, and the next letter or the end of the text the second. -/
theorem IsLegible.text_append_inj (legible : IsLegible write)
    {command other : Command α} (number : command.point.IsNumber)
    (otherNumber : other.point.IsNumber)
    (same : command.text write ++ commands.flatMap (Command.text write) =
      other.text write ++ others.flatMap (Command.text write)) :
    command = other ∧ commands.flatMap (Command.text write) =
      others.flatMap (Command.text write) := by
  have noSpace (number : α) :
      ∀ character ∈ write number, (character != ' ') = true := by
    intro character member
    exact bne_iff_ne.mpr fun space => (legible.plain number).2.2 (space ▸ member)
  have noLetter (number : α) : ∀ character ∈ write number,
      (character != 'M' && character != 'L') = true := by
    intro character member
    obtain ⟨noMove, noLine, -⟩ := legible.plain number
    rw [Bool.and_eq_true, bne_iff_ne, bne_iff_ne]
    exact ⟨fun letter => noMove (letter ▸ member),
      fun letter => noLine (letter ▸ member)⟩
  simp only [Command.text, Path.command, List.cons_append, List.append_assoc,
    List.cons.injEq] at same
  obtain ⟨sameLetter, same⟩ := same
  obtain ⟨sameX, same⟩ := Text.append_inj_of_stops (noSpace _) (noSpace _)
    (Text.stops_cons_iff.mpr rfl) (Text.stops_cons_iff.mpr rfl) same
  obtain ⟨sameY, same⟩ := Text.append_inj_of_stops (noLetter _) (noLetter _)
    (stops_flatMap write commands) (stops_flatMap write others)
    (List.cons.inj same).2
  have samePoint :=
    legible.eq_of_write_eq number otherNumber sameX sameY
  exact ⟨Command.eq_of_letter_eq sameLetter samePoint, same⟩

/-- A text spells at most one row of commands. -/
theorem Spells.unique {text : Text} (legible : IsLegible write)
    (spells : Spells write commands text)
    (spellsToo : Spells write others text) : commands = others := by
  obtain ⟨rfl, numbers⟩ := spells
  obtain ⟨same, numbersToo⟩ := spellsToo
  induction commands generalizing others with
  | nil =>
      cases others with
      | nil => rfl
      | cons other others => cases same
  | cons command commands ih =>
      cases others with
      | nil => cases same
      | cons other others =>
          rw [List.forall_mem_cons] at numbers numbersToo
          rw [List.flatMap_cons, List.flatMap_cons] at same
          obtain ⟨sameCommand, sameOthers⟩ :=
            legible.text_append_inj numbers.1 numbersToo.1 same.symm
          rw [sameCommand, ih numbers.2 sameOthers.symm numbersToo.2]

end Spelling

section Tracing

/-- Path data behind a point where the segment before it stopped. -/
def dataFrom (write : α → Text) (previous : Option (Point α))
    (segments : List (Segment α)) : Text :=
  (List.zipWith (stroke write)
    (previous :: segments.map fun segment => some segment.stop)
    segments).flatten

theorem data_eq (write : α → Text) (segments : List (Segment α)) :
    data write segments = dataFrom write none segments :=
  rfl

theorem dataFrom_cons (write : α → Text) (previous : Option (Point α))
    (segment : Segment α) (segments : List (Segment α)) :
    dataFrom write previous (segment :: segments) =
      stroke write previous segment ++
        dataFrom write (some segment.stop) segments :=
  rfl

theorem exists_traces (previous : Option (Point α))
    (segments : List (Segment α)) :
    ∃ commands, Traces previous segments commands := by
  induction segments generalizing previous with
  | nil => exact ⟨[], .nil previous⟩
  | cons segment segments ih =>
      obtain ⟨commands, others⟩ := ih (some segment.stop)
      cases previous with
      | none => exact ⟨_, .apart (by simp) others⟩
      | some point =>
          cases same : point.same segment.start with
          | true => exact ⟨_, .joined same others⟩
          | false => exact ⟨_, .apart (by simpa using same) others⟩

/-- Path data is the text of the commands of a drawing. -/
theorem Traces.flatMap_text (traces : Traces previous segments commands) :
    commands.flatMap (Command.text write) =
      dataFrom write previous segments := by
  induction traces with
  | nil previous => rfl
  | joined same others ih =>
      rw [dataFrom_cons, stroke, Option.any_some, if_pos same, ← ih]
      rfl
  | @apart previous segment segments commands differs others ih =>
      have moves : (previous.any fun point => point.same segment.start) =
          false := by
        cases previous with
        | none => rfl
        | some point => exact differs point rfl
      rw [dataFrom_cons, stroke, moves, if_neg Bool.false_ne_true, ← ih,
        List.append_assoc]
      rfl

theorem Traces.numbers (traces : Traces previous segments commands)
    (segmentNumbers : ∀ segment ∈ segments, segment.IsNumber) :
    ∀ command ∈ commands, command.point.IsNumber := by
  induction traces with
  | nil previous => simp
  | joined same others ih =>
      obtain ⟨number, segmentNumbers⟩ :=
        List.forall_mem_cons.mp segmentNumbers
      exact List.forall_mem_cons.mpr ⟨number.stop, ih segmentNumbers⟩
  | apart differs others ih =>
      obtain ⟨number, segmentNumbers⟩ :=
        List.forall_mem_cons.mp segmentNumbers
      exact List.forall_mem_cons.mpr ⟨number.start,
        List.forall_mem_cons.mpr ⟨number.stop, ih segmentNumbers⟩⟩

/-- Following the commands of a drawing gives the drawing back. -/
theorem Traces.exists_drawn (traces : Traces previous segments commands)
    (numbers : ∀ segment ∈ segments, segment.IsNumber) :
    ∃ found, drawn previous commands = some found ∧
      List.Forall₂ Restores segments found := by
  induction traces with
  | nil previous => exact ⟨[], by simp [drawn], .nil⟩
  | @joined previous segment segments commands same others ih =>
      obtain ⟨found, follows, restores⟩ :=
        ih (List.forall_mem_cons.mp numbers).2
      exact ⟨⟨previous, segment.stop⟩ :: found, by simp [drawn, follows],
        .cons ⟨rfl, same⟩ restores⟩
  | @apart previous segment segments commands differs others ih =>
      obtain ⟨number, numbers⟩ := List.forall_mem_cons.mp numbers
      obtain ⟨found, follows, restores⟩ := ih numbers
      exact ⟨segment :: found, by simp [drawn, follows],
        .cons ⟨rfl, number.start⟩ restores⟩

end Tracing

section Moves

/-- Each segment starts at the very point where the one before it stopped. -/
def Joined : Point α → List (Segment α) → Prop
  | _, [] => True
  | point, segment :: segments =>
    segment.start = point ∧ Joined segment.stop segments

omit [Coordinate α] in
theorem count_flatMap_text (plain : ∀ number, 'M' ∉ write number)
    (commands : List (Command α)) :
    (commands.flatMap (Command.text write)).count 'M' =
      commands.countP Command.isMove := by
  induction commands with
  | nil => rfl
  | cons command commands ih =>
      have once : (command.text write).count 'M' =
          if command.isMove then 1 else 0 := by
        cases command <;>
          simp [Command.text, Path.command, Command.letter, Command.isMove,
            List.count_eq_zero.mpr (plain _)]
      rw [List.flatMap_cons, List.count_append, once, ih, List.countP_cons,
        Nat.add_comm]

theorem Traces.countP_isMove_of_joined {point : Point α}
    (traces : Traces (some point) segments commands)
    (joined : Joined point segments)
    (numbers : ∀ segment ∈ segments, segment.IsNumber) :
    commands.countP Command.isMove = 0 := by
  induction segments generalizing point commands with
  | nil =>
      cases traces
      rfl
  | cons segment segments ih =>
      obtain ⟨rfl, joined⟩ := joined
      obtain ⟨number, numbers⟩ := List.forall_mem_cons.mp numbers
      cases traces with
      | joined same others =>
          rw [List.countP_cons, ih others joined numbers]
          rfl
      | apart differs others =>
          have same : segment.start.same segment.start = true := number.start
          rw [differs segment.start rfl] at same
          cases same

/-- A drawing without a gap needs at most one move. -/
theorem count_data_le_one {point : Point α}
    (plain : ∀ number, 'M' ∉ write number) (joined : Joined point segments)
    (numbers : ∀ segment ∈ segments, segment.IsNumber) :
    (data write segments).count 'M' ≤ 1 := by
  obtain ⟨commands, traces⟩ := exists_traces none segments
  rw [data_eq, ← traces.flatMap_text, count_flatMap_text plain]
  cases traces with
  | nil => exact Nat.zero_le 1
  | apart differs others =>
      rw [List.countP_cons, List.countP_cons,
        others.countP_isMove_of_joined joined.2
          (List.forall_mem_cons.mp numbers).2]
      exact Nat.le_refl 1

end Moves

/-- Path data loses nothing.  Where numbers can be told apart, the path data of
a drawing without anything that is not a number spells exactly one row of
commands: a line for each segment, and a move for the first one and for each
that does not start where the one before it stopped.  Followed from nowhere
they draw as many segments again, with the same ends and with starts that are
the same numbers. -/
theorem data_reads_back (legible : IsLegible write)
    (numbers : ∀ segment ∈ segments, segment.IsNumber) :
    ∃ commands found,
      (∀ others, Spells write others (data write segments) ↔
        others = commands) ∧
      Traces none segments commands ∧
      drawn none commands = some found ∧
      List.Forall₂ Restores segments found := by
  obtain ⟨commands, traces⟩ := exists_traces none segments
  obtain ⟨found, follows, restores⟩ := traces.exists_drawn numbers
  have spells : Spells write commands (data write segments) :=
    ⟨traces.flatMap_text, traces.numbers numbers⟩
  refine ⟨commands, found, ?_, traces, follows, restores⟩
  intro others
  constructor
  · intro spellsToo
    exact spellsToo.unique legible spells
  · rintro rfl
    exact spells

/-- A segment that starts at the zero above the one where the segment before it
stopped goes on without a move, and comes back with the start that was
written. -/
theorem data_reads_back_signed_zero :
    let segments : List (Segment Float) :=
      [⟨⟨0, 0⟩, ⟨0.1, -0⟩⟩, ⟨⟨0.1, 0⟩, ⟨20, 0⟩⟩, ⟨⟨0, 5⟩, ⟨0, -3.5⟩⟩]
    let commands : List (Command Float) :=
      [.move ⟨0, 0⟩, .line ⟨0.1, -0⟩, .line ⟨20, 0⟩, .move ⟨0, 5⟩,
        .line ⟨0, -3.5⟩]
    let text := "M0 0L0.1 -0L20 0M0 5L0 -3.5".toList
    (∀ others, Spells NumberFormat.plain.write others text ↔
        others = commands) ∧
      Traces none segments commands ∧
      ∃ found, drawn none commands = some found ∧
        List.Forall₂ Restores segments found := by
  intro segments commands text
  have numbers : ∀ segment ∈ segments, segment.IsNumber := by decide +kernel
  have commandNumbers : ∀ command ∈ commands, command.point.IsNumber := by
    decide +kernel
  have written : data NumberFormat.plain.write segments = text := by
    decide +kernel
  have spells : Spells NumberFormat.plain.write commands
      (data NumberFormat.plain.write segments) :=
    ⟨by decide +kernel, commandNumbers⟩
  obtain ⟨known, found, spellsIff, traces, follows, restores⟩ :=
    data_reads_back isLegible_plain numbers
  obtain rfl := (spellsIff commands).mp spells
  exact ⟨written ▸ spellsIff, traces, found, follows, restores⟩

end Path

end TurtleSystems
