import TurtleSystems.Proofs.Path
import TurtleSystems.Proofs.Turtle

/-!
# Walking part by part

A walk over a program is a walk over its beginning followed by one over the
rest from where the first one ended.  Nothing is used of the arithmetic: the
same operations are made in the same order.  As only drawing and moving change
the position, a segment starts at the very point where the one before it
stopped unless a move lies between them, and a program without moves needs a
single move in its path data.
-/

namespace TurtleSystems

namespace Turtle

variable {α : Type} [Directed α] {turtle : Turtle α} {pose : Pose α}
variable {program text : Text} {character : Char}

section Walks

/-- What was drawn before stays below what a walk draws. -/
theorem foldl_obey (turtle : Turtle α) (symbols : List Symbol)
    (drawn : List (Segment α)) (pose : Pose α) :
    symbols.foldl turtle.obey (drawn, pose) =
      ((symbols.foldl turtle.obey ([], pose)).1 ++ drawn,
        (symbols.foldl turtle.obey ([], pose)).2) := by
  induction symbols generalizing drawn pose with
  | nil => rfl
  | cons symbol symbols ih =>
      have obeyed : turtle.obey (drawn, pose) symbol =
          ((turtle.obey ([], pose) symbol).1 ++ drawn,
            (turtle.obey ([], pose) symbol).2) := by
        cases symbol <;> rfl
      rw [List.foldl_cons, List.foldl_cons, obeyed, ih,
        ih (turtle.obey ([], pose) symbol).1, List.append_assoc]

theorem traceFrom_append (turtle : Turtle α) (pose : Pose α)
    (first second : Text) :
    turtle.traceFrom pose (first ++ second) =
      ((turtle.traceFrom pose first).1 ++
          (turtle.traceFrom (turtle.traceFrom pose first).2 second).1,
        (turtle.traceFrom (turtle.traceFrom pose first).2 second).2) := by
  simp only [traceFrom, List.filterMap_append, List.foldl_append]
  rw [foldl_obey turtle (second.filterMap Symbol.ofChar?)
    ((first.filterMap Symbol.ofChar?).foldl turtle.obey ([], pose)).1,
    List.reverse_append]

theorem traceFrom_cons (turtle : Turtle α) (pose : Pose α)
    (character : Char) (text : Text) :
    turtle.traceFrom pose (character :: text) =
      ((turtle.traceFrom pose [character]).1 ++
          (turtle.traceFrom (turtle.traceFrom pose [character]).2 text).1,
        (turtle.traceFrom (turtle.traceFrom pose [character]).2 text).2) :=
  traceFrom_append turtle pose [character] text

/-- Every other character than `f` and `g` leaves the turtle in its place and
draws nothing. -/
theorem traceFrom_of_still (turtle : Turtle α) (pose : Pose α)
    (noDraw : 'f' ∉ text) (noMove : 'g' ∉ text) :
    (turtle.traceFrom pose text).1 = [] ∧
      (turtle.traceFrom pose text).2.position = pose.position := by
  induction text generalizing pose with
  | nil => exact ⟨rfl, rfl⟩
  | cons character text ih =>
      rw [List.mem_cons, not_or] at noDraw noMove
      have still : (turtle.traceFrom pose [character]).1 = [] ∧
          (turtle.traceFrom pose [character]).2.position =
            pose.position := by
        cases found : Symbol.ofChar? character with
        | none => simp [traceFrom, found]
        | some symbol =>
            have spelled := Symbol.toChar_of_ofChar? found
            cases symbol with
            | draw => exact absurd spelled noDraw.1
            | move => exact absurd spelled noMove.1
            | left | right | inert mark => simp [traceFrom, found, obey]
      obtain ⟨nothing, stays⟩ := ih (turtle.traceFrom pose [character]).2
        noDraw.2 noMove.2
      rw [traceFrom_cons, still.1, nothing, stays, still.2]
      exact ⟨rfl, rfl⟩

/-- A mark or a character outside the alphabet is passed over. -/
theorem traceFrom_of_ignored (turtle : Turtle α) (pose : Pose α)
    (ignored : character ∉ ['f', 'g', '+', '-']) :
    turtle.traceFrom pose [character] = ([], pose) := by
  simp only [List.mem_cons, List.not_mem_nil, or_false, not_or] at ignored
  obtain ⟨notDraw, notMove, notLeft, notRight⟩ := ignored
  cases found : Symbol.ofChar? character with
  | none => simp [traceFrom, found]
  | some symbol =>
      have spelled := Symbol.toChar_of_ofChar? found
      cases symbol with
      | draw => exact absurd spelled.symm notDraw
      | move => exact absurd spelled.symm notMove
      | left => exact absurd spelled.symm notLeft
      | right => exact absurd spelled.symm notRight
      | inert mark => simp [traceFrom, found, obey]

end Walks

section Segments

/-- Without a move each segment starts where the turtle stands: at first where
the walk starts, and then where the segment before it stopped. -/
theorem joined_traceFrom (turtle : Turtle α) (pose : Pose α)
    (noMove : 'g' ∉ program) :
    Path.Joined pose.position (turtle.traceFrom pose program).1 := by
  induction program generalizing pose with
  | nil => trivial
  | cons character program ih =>
      rw [List.mem_cons, not_or] at noMove
      rw [traceFrom_cons]
      by_cases draws : character = 'f'
      · subst draws
        exact ⟨rfl, ih (turtle.traceFrom pose ['f']).2 noMove.2⟩
      · have noDrawHere : 'f' ∉ [character] := by
          simpa using Ne.symm draws
        have noMoveHere : 'g' ∉ [character] := by simpa using noMove.1
        obtain ⟨nothing, stays⟩ :=
          turtle.traceFrom_of_still pose noDrawHere noMoveHere
        rw [nothing, ← stays]
        exact ih _ noMove.2

/-- A drawing symbol draws from where the turtle stands. -/
theorem exists_traceFrom_draw (turtle : Turtle α) (pose : Pose α)
    (text : Text) :
    ∃ others, (turtle.traceFrom pose ('f' :: text)).1 =
      ⟨pose.position, turtle.ahead pose⟩ :: others :=
  ⟨_, congrArg Prod.fst (traceFrom_cons turtle pose 'f' text)⟩

theorem traceFrom_draw_still (turtle : Turtle α) (pose : Pose α)
    (noDraw : 'f' ∉ text) (noMove : 'g' ∉ text) :
    (turtle.traceFrom pose ('f' :: text)).1 =
        [⟨pose.position, turtle.ahead pose⟩] ∧
      (turtle.traceFrom pose ('f' :: text)).2.position =
        turtle.ahead pose := by
  obtain ⟨nothing, stays⟩ := turtle.traceFrom_of_still
    (turtle.traceFrom pose ['f']).2 noDraw noMove
  rw [traceFrom_cons, nothing, stays]
  exact ⟨rfl, rfl⟩

/-- Of two drawing symbols without a move or another one between them the
second draws from where the first one came to. -/
theorem exists_traceFrom_draw_draw (turtle : Turtle α) (pose : Pose α)
    (noDraw : 'f' ∉ text) (noMove : 'g' ∉ text) (after : Text) :
    ∃ stop others,
      (turtle.traceFrom pose (('f' :: text) ++ 'f' :: after)).1 =
        ⟨pose.position, turtle.ahead pose⟩ ::
          ⟨turtle.ahead pose, stop⟩ :: others := by
  obtain ⟨drawn, stays⟩ := turtle.traceFrom_draw_still pose noDraw noMove
  obtain ⟨others, behind⟩ := turtle.exists_traceFrom_draw
    (turtle.traceFrom pose ('f' :: text)).2 after
  rw [traceFrom_append, drawn, behind, stays]
  exact ⟨_, _, rfl⟩

end Segments

section Composition

/-- How walks over the parts of a program make up the walk over it. -/
structure WalksByParts (turtle : Turtle α) : Prop where
  append : ∀ first second, turtle.trace (first ++ second) =
    ((turtle.trace first).1 ++
        (turtle.traceFrom (turtle.trace first).2 second).1,
      (turtle.traceFrom (turtle.trace first).2 second).2)
  length : ∀ program, (turtle.draw program).length = program.count 'f'
  ignored : ∀ before after character, character ∉ ['f', 'g', '+', '-'] →
    turtle.trace (before ++ character :: after) =
      turtle.trace (before ++ after)

/-- How the segments of a walk hang together where no move is between them. -/
structure ChainsSegments (turtle : Turtle α) : Prop where
  consecutive : ∀ before between after,
    'f' ∉ between → 'g' ∉ between → ∃ first second,
      let drawn := turtle.draw (before ++ 'f' :: (between ++ 'f' :: after))
      drawn[before.count 'f']? = some first ∧
        drawn[before.count 'f' + 1]? = some second ∧
        second.start = first.stop
  first : ∀ before after, 'f' ∉ before → 'g' ∉ before → ∃ first,
    (turtle.draw (before ++ 'f' :: after)).head? = some first ∧
      first.start = Point.origin
  last : ∀ before after, 'f' ∉ after → 'g' ∉ after → ∃ last,
    (turtle.draw (before ++ 'f' :: after)).getLast? = some last ∧
      (turtle.trace (before ++ 'f' :: after)).2.position = last.stop

theorem walksByParts (turtle : Turtle α) : turtle.WalksByParts := by
  refine ⟨turtle.traceFrom_append start, turtle.length_draw, ?_⟩
  intro before after character ignored
  rw [trace, trace, traceFrom_append, traceFrom_append turtle start before,
    traceFrom_cons, turtle.traceFrom_of_ignored _ ignored]
  rfl

theorem chainsSegments (turtle : Turtle α) : turtle.ChainsSegments := by
  refine ⟨?_, ?_, ?_⟩
  · intro before between after noDraw noMove
    let reached := (turtle.trace before).2
    obtain ⟨stop, others, behind⟩ := turtle.exists_traceFrom_draw_draw
      reached noDraw noMove after
    have drawnEq : turtle.draw (before ++ 'f' :: (between ++ 'f' :: after)) =
        turtle.draw before ++ ⟨reached.position, turtle.ahead reached⟩ ::
          ⟨turtle.ahead reached, stop⟩ :: others :=
      (congrArg Prod.fst (turtle.traceFrom_append start before _)).trans
        (congrArg (turtle.draw before ++ ·) behind)
    refine ⟨⟨reached.position, turtle.ahead reached⟩,
      ⟨turtle.ahead reached, stop⟩, ?_, ?_, rfl⟩
    · simp [drawnEq, ← turtle.length_draw before]
    · simp [drawnEq, ← turtle.length_draw before]
  · intro before after noDraw noMove
    obtain ⟨nothing, stays⟩ := turtle.traceFrom_of_still start noDraw noMove
    obtain ⟨others, behind⟩ := turtle.exists_traceFrom_draw
      (turtle.traceFrom start before).2 after
    rw [draw, trace, traceFrom_append, nothing, behind]
    exact ⟨_, rfl, stays⟩
  · intro before after noDraw noMove
    obtain ⟨drawn, stays⟩ := turtle.traceFrom_draw_still
      (turtle.traceFrom start before).2 noDraw noMove
    rw [draw, trace, traceFrom_append, drawn, stays]
    exact ⟨_, List.getLast?_concat, rfl⟩

/-- A drawing without moves has at most one move in its path data, as long as
all its coordinates are numbers. -/
theorem count_data_draw_le_one (turtle : Turtle α) {write : α → Text}
    (plain : ∀ number, 'M' ∉ write number) (noMove : 'g' ∉ program)
    (numbers : ∀ segment ∈ turtle.draw program, segment.IsNumber) :
    (Path.data write (turtle.draw program)).count 'M' ≤ 1 :=
  Path.count_data_le_one plain (turtle.joined_traceFrom start noMove) numbers

/-- Whatever the operations on coordinates compute, the walk over a program is
made up of the walks over its parts, and its segments are joined wherever no
move lies between them.  So a drawing without moves is one path, and so it is
written: with any numbers that hold no `M`, and with double-precision
numbers. -/
theorem walks_and_chains (turtle : Turtle α) :
    turtle.WalksByParts ∧ turtle.ChainsSegments ∧
    (∀ write : α → Text, (∀ number, 'M' ∉ write number) →
      ∀ program, 'g' ∉ program →
        (∀ segment ∈ turtle.draw program, segment.IsNumber) →
          (Path.data write (turtle.draw program)).count 'M' ≤ 1) ∧
    (∀ (walker : Turtle Float) (program : Text), 'g' ∉ program →
      (∀ segment ∈ walker.draw program,
        segment.start.x.isNaN = false ∧ segment.start.y.isNaN = false ∧
          segment.stop.x.isNaN = false ∧ segment.stop.y.isNaN = false) →
        (Path.data NumberFormat.plain.write
          (walker.draw program)).count 'M' ≤ 1) := by
  refine ⟨turtle.walksByParts, turtle.chainsSegments, ?_, ?_⟩
  · intro write plain program noMove numbers
    exact turtle.count_data_draw_le_one plain noMove numbers
  · intro walker program noMove numbers
    apply walker.count_data_draw_le_one
      (fun number => (Path.isLegible_plain.plain number).1) noMove
    intro segment member
    obtain ⟨startX, startY, stopX, stopY⟩ := numbers segment member
    exact ⟨segment.start.isNumber_iff.mpr ⟨startX, startY⟩,
      segment.stop.isNumber_iff.mpr ⟨stopX, stopY⟩⟩

end Composition

end Turtle

/-- Whole numbers with a sign of their own.  There are two zeros, and they are
the same number. -/
structure Whole where
  negative : Bool
  size : Nat
  deriving DecidableEq

namespace Whole

def toInt (number : Whole) : Int :=
  if number.negative then -number.size else number.size

def ofInt (number : Int) : Whole :=
  ⟨number < 0, number.natAbs⟩

/-- Drawings on a grid: angles are counted in quarter turns. -/
instance : Directed Whole where
  add first second := ofInt (first.toInt + second.toInt)
  sub first second := ofInt (first.toInt - second.toInt)
  mul first second :=
    ⟨first.negative != second.negative, first.size * second.size⟩
  div first second :=
    ⟨first.negative != second.negative, first.size / second.size⟩
  neg number := ⟨!number.negative, number.size⟩
  ofNat number := ⟨false, number⟩
  lesser first second :=
    if second.toInt < first.toInt then second else first
  greater first second :=
    if first.toInt < second.toInt then second else first
  same first second := first.toInt == second.toInt
  cosine angle :=
    ofInt (match angle.toInt % 4 with | 0 => 1 | 2 => -1 | _ => 0)
  sine angle :=
    ofInt (match angle.toInt % 4 with | 1 => 1 | 3 => -1 | _ => 0)

def write (number : Whole) : Text :=
  if number.negative then '-' :: Decimal.digits number.size
  else Decimal.digits number.size

theorem isDigit_or_minus_of_mem_write {number : Whole} {character : Char}
    (member : character ∈ number.write) :
    Decimal.isDigit character = true ∨ character = '-' := by
  unfold write at member
  split at member
  · rcases List.mem_cons.mp member with minus | member
    · exact .inr minus
    · exact .inl (Decimal.isDigit_of_mem_digits member)
  · exact .inl (Decimal.isDigit_of_mem_digits member)

end Whole

namespace Turtle

/-- A walk around a square with a mark on the way is one path, and its second
and third segments share a corner. -/
theorem walks_and_chains_square :
    let turtle : Turtle Whole := ⟨.ofInt 10, .ofInt 1⟩
    (Path.data Whole.write
        (turtle.draw "f+f+xf+f?".toList)).count 'M' ≤ 1 ∧
      ∃ second third, (turtle.draw "f+f+xf+f?".toList)[1]? = some second ∧
        (turtle.draw "f+f+xf+f?".toList)[2]? = some third ∧
        third.start = second.stop := by
  intro turtle
  obtain ⟨-, chains, oneMove, -⟩ := walks_and_chains turtle
  refine ⟨?_, ?_⟩
  · apply oneMove
    · intro number member
      exact absurd (Whole.isDigit_or_minus_of_mem_write member) (by decide)
    · decide
    · have drawnNumbers : ∀ segment ∈ turtle.draw "f+f+xf+f?".toList,
          segment.start.same segment.start = true ∧
            segment.stop.same segment.stop = true := by decide
      intro segment member
      obtain ⟨start, stop⟩ := drawnNumbers segment member
      exact ⟨start, stop⟩
  · exact chains.consecutive "f+".toList "+x".toList "+f?".toList
      (by decide) (by decide)

end Turtle

end TurtleSystems
