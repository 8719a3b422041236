import Mathlib.Algebra.Field.Basic
import Mathlib.Logic.Relation
import Mathlib.Order.Bounds.Basic
import Mathlib.Tactic.Ring
import TurtleSystems.Geometry

/-!
# Boxes in exact arithmetic

Where coordinates are the numbers of an ordered field, the box around segments
is exact: without its margin it reaches from the least to the greatest
coordinate of all their ends.  It is made in one pass that keeps the two
corners of what was passed.  So it makes no difference in which order, how
often and in which direction the segments are drawn.
-/

namespace TurtleSystems

namespace Segment

variable {α : Type}

/-- The points where segments start and stop. -/
def ends (segments : List (Segment α)) : Set (Point α) :=
  {point | ∃ segment ∈ segments,
    point = segment.start ∨ point = segment.stop}

/-- The segment that is drawn in the other direction. -/
def turned (segment : Segment α) : Segment α :=
  ⟨segment.stop, segment.start⟩

/-- One way to draw the same lines again: in another order, with a segment
drawn once more, or with the first one drawn in the other direction. -/
inductive Redraws : List (Segment α) → List (Segment α) → Prop where
  | permuted {first second : List (Segment α)}
      (permutation : first.Perm second) : Redraws first second
  | repeated {segment : Segment α} {segments : List (Segment α)}
      (member : segment ∈ segments) : Redraws segments (segment :: segments)
  | turned (segment : Segment α) (segments : List (Segment α)) :
      Redraws (segment :: segments) (segment.turned :: segments)

@[simp]
theorem ends_nil : ends ([] : List (Segment α)) = ∅ := by
  simp [ends]

theorem ends_cons (segment : Segment α) (segments : List (Segment α)) :
    ends (segment :: segments) =
      {segment.start, segment.stop} ∪ ends segments := by
  ext point
  simp [ends]

theorem nonempty_ends_iff {segments : List (Segment α)} :
    (ends segments).Nonempty ↔ segments ≠ [] := by
  cases segments with
  | nil => simp
  | cons segment segments => simp [ends_cons]

/-- Drawing the same lines again leaves the ends as they are. -/
theorem Redraws.ends_eq {first second : List (Segment α)}
    (redraws : Redraws first second) : ends first = ends second := by
  cases redraws with
  | permuted permutation =>
      ext point
      simp only [ends, Set.mem_ofPred_eq, permutation.mem_iff]
  | @repeated segment segments member =>
      rw [ends_cons, Set.union_eq_self_of_subset_left]
      rintro point (rfl | rfl)
      · exact ⟨segment, member, .inl rfl⟩
      · exact ⟨segment, member, .inr rfl⟩
  | turned segment segments =>
      rw [ends_cons, ends_cons]
      exact congrArg (· ∪ ends segments)
        (Set.pair_comm segment.start segment.stop)

theorem ends_eq_of_eqvGen {first second : List (Segment α)}
    (redrawn : Relation.EqvGen Redraws first second) :
    ends first = ends second := by
  induction redrawn with
  | rel first second redraws => exact redraws.ends_eq
  | refl segments => rfl
  | symm first second redrawn ih => exact ih.symm
  | trans first second third redrawn redrawnAgain ih ihAgain =>
      exact ih.trans ihAgain

end Segment

section Corners

variable {K : Type} [LinearOrder K]

/-- Points reach on both axes from the coordinates of one corner to those of
the other. -/
structure Point.Span (points : Set (Point K)) (low high : Point K) : Prop where
  least_x : IsLeast (Point.x '' points) low.x
  least_y : IsLeast (Point.y '' points) low.y
  greatest_x : IsGreatest (Point.x '' points) high.x
  greatest_y : IsGreatest (Point.y '' points) high.y

namespace Point.Span

variable {points : Set (Point K)} {low high : Point K}

theorem singleton (point : Point K) : Span {point} point point := by
  constructor <;> simp [IsLeast, IsGreatest, lowerBounds, upperBounds]

theorem low_le_high (span : Span points low high) :
    low.x ≤ high.x ∧ low.y ≤ high.y :=
  ⟨span.least_x.2 span.greatest_x.1, span.least_y.2 span.greatest_y.1⟩

theorem unique {otherLow otherHigh : Point K} (span : Span points low high)
    (other : Span points otherLow otherHigh) :
    low = otherLow ∧ high = otherHigh := by
  constructor
  · ext
    · exact span.least_x.unique other.least_x
    · exact span.least_y.unique other.least_y
  · ext
    · exact span.greatest_x.unique other.greatest_x
    · exact span.greatest_y.unique other.greatest_y

end Point.Span

end Corners

variable {K : Type} [Field K] [LinearOrder K]

/-- The numbers of an ordered field are exact coordinates. -/
instance Coordinate.exact : Coordinate K where
  ofNat := Nat.cast
  lesser := min
  greater := max
  same first second := decide (first = second)

namespace Point.Span

variable {points : Set (Point K)} {low high : Point K}

/-- With one more point the corners move out to it where it lies outside. -/
theorem insert (span : Span points low high) (point : Point K) :
    Span (insert point points) (low.lesser point) (high.greater point) := by
  constructor <;> rw [Set.image_insert_eq]
  · rw [show (low.lesser point).x = min point.x low.x from min_comm _ _]
    exact span.least_x.insert point.x
  · rw [show (low.lesser point).y = min point.y low.y from min_comm _ _]
    exact span.least_y.insert point.y
  · rw [show (high.greater point).x = max point.x high.x from max_comm _ _]
    exact span.greatest_x.insert point.x
  · rw [show (high.greater point).y = max point.y high.y from max_comm _ _]
    exact span.greatest_y.insert point.y

/-- After a pass over more points the corners are those of all of them. -/
theorem exists_foldl (span : Span points low high) (more : List (Point K)) :
    ∃ lowest highest,
      more.foldl
          (fun (low, high) point => (low.lesser point, high.greater point))
          (low, high) = (lowest, highest) ∧
        Span (points ∪ {point | point ∈ more}) lowest highest := by
  induction more generalizing points low high with
  | nil => exact ⟨low, high, rfl, by simpa using span⟩
  | cons point more ih =>
      obtain ⟨lowest, highest, passed, spanAll⟩ := ih (span.insert point)
      have pointsEq : Insert.insert point points ∪ {point | point ∈ more} =
          points ∪ {other | other ∈ point :: more} := by
        ext other
        simp only [Set.mem_union, Set.mem_insert_iff, Set.mem_ofPred_eq,
          List.mem_cons]
        tauto
      exact ⟨lowest, highest, passed, pointsEq ▸ spanAll⟩

end Point.Span

namespace ViewBox

open Point (Span)
open Segment (Redraws ends)

variable {segments : List (Segment K)} {box other : ViewBox K} {margin : K}

/-- The upper left corner of what a box shows inside its margin. -/
def innerLow (box : ViewBox K) (margin : K) : Point K :=
  ⟨box.minX + margin, box.minY + margin⟩

/-- The lower right corner of what a box shows inside its margin. -/
def innerHigh (box : ViewBox K) (margin : K) : Point K :=
  ⟨box.maxX - margin, box.maxY - margin⟩

theorem innerLow_around (margin : K) (low high : Point K) :
    (around margin low high).innerLow margin = low := by
  ext <;> exact sub_add_cancel _ _

theorem innerHigh_around (margin : K) (low high : Point K) :
    (around margin low high).innerHigh margin = high := by
  have two : (Coordinate.ofNat 2 : K) = 2 := Nat.cast_ofNat
  ext <;> simp only [innerHigh, maxX, maxY, around, two] <;> ring

/-- A box is known from its margin and the corners inside it. -/
theorem eq_of_inner_eq (sameLow : box.innerLow margin = other.innerLow margin)
    (sameHigh : box.innerHigh margin = other.innerHigh margin) :
    box = other := by
  simp only [innerLow, innerHigh, maxX, maxY, Point.mk.injEq, add_left_inj,
    sub_left_inj] at sameLow sameHigh
  obtain ⟨minXEq, minYEq⟩ := sameLow
  rw [minXEq, minYEq, add_right_inj, add_right_inj] at sameHigh
  exact ViewBox.ext minXEq minYEq sameHigh.1 sameHigh.2

theorem exists_ofSegments? (margin : K) (segmentsNeNil : segments ≠ []) :
    ∃ box, ofSegments? margin segments = some box ∧
      Span (ends segments) (box.innerLow margin) (box.innerHigh margin) := by
  cases segments with
  | nil => exact absurd rfl segmentsNeNil
  | cons first others =>
      obtain ⟨low, high, passed, span⟩ :=
        (Span.singleton first.start).exists_foldl (first.stop ::
          others.flatMap fun segment => [segment.start, segment.stop])
      have pointsEq : {first.start} ∪ {point | point ∈ first.stop ::
          others.flatMap fun segment => [segment.start, segment.stop]} =
            ends (first :: others) := by
        ext point
        simp [ends, or_assoc]
      refine ⟨around margin low high, ?_, ?_⟩
      · simp only [ofSegments?, passed]
      · rw [innerLow_around, innerHigh_around, ← pointsEq]
        exact span

theorem ofSegments?_eq_none_iff :
    ofSegments? margin segments = none ↔ segments = [] := by
  cases segments <;> simp [ofSegments?]

/-- The box of a drawing depends only on where its segments end. -/
theorem ofSegments?_eq_of_ends_eq {first second : List (Segment K)}
    (sameEnds : ends first = ends second) :
    ofSegments? margin first = ofSegments? margin second := by
  have bothOrNone : first ≠ [] ↔ second ≠ [] := by
    rw [← Segment.nonempty_ends_iff, sameEnds, Segment.nonempty_ends_iff]
  by_cases drawn : first ≠ []
  · obtain ⟨box, found, span⟩ := exists_ofSegments? margin drawn
    obtain ⟨other, otherFound, otherSpan⟩ :=
      exists_ofSegments? margin (bothOrNone.mp drawn)
    rw [← sameEnds] at otherSpan
    obtain ⟨sameLow, sameHigh⟩ := span.unique otherSpan
    rw [found, otherFound, eq_of_inner_eq sameLow sameHigh]
  · have notDrawn : second = [] :=
      not_ne_iff.mp fun other => drawn (bothOrNone.mpr other)
    rw [not_ne_iff.mp drawn, notDrawn]

/-- The box around segments is exact.  Just no segments have none.  Less the
margin on each side it reaches on both axes from the least to the greatest
coordinate of all ends.  Drawing the same lines in another order, several times
or in the other direction, in any combination, does not change it. -/
theorem ofSegments?_exact (margin : K) :
    (∀ segments : List (Segment K),
      ofSegments? margin segments = none ↔ segments = []) ∧
    (∀ segments : List (Segment K), segments ≠ [] →
      ∃ box, ofSegments? margin segments = some box ∧
        Span (ends segments) ⟨box.minX + margin, box.minY + margin⟩
          ⟨box.maxX - margin, box.maxY - margin⟩) ∧
    ∀ first second : List (Segment K), Relation.EqvGen Redraws first second →
      ofSegments? margin first = ofSegments? margin second := by
  refine ⟨?_, ?_, ?_⟩
  · intro segments
    exact ofSegments?_eq_none_iff
  · intro segments segmentsNeNil
    exact exists_ofSegments? margin segmentsNeNil
  · intro first second redrawn
    exact ofSegments?_eq_of_ends_eq (Segment.ends_eq_of_eqvGen redrawn)

/-- Two strokes in rational numbers, and the same lines drawn from the last one
on, the second stroke backwards and the first one twice. -/
theorem ofSegments?_exact_two_strokes :
    let first : Segment ℚ := ⟨⟨0, 0⟩, ⟨5, -4⟩⟩
    let second : Segment ℚ := ⟨⟨5, -4⟩, ⟨-3, 2⟩⟩
    let box : ViewBox ℚ := ⟨-7 / 2, -9 / 2, 9, 7⟩
    ofSegments? (1 / 2) [first, second] = some box ∧
      Span (ends [first, second]) ⟨-3, -4⟩ ⟨5, 2⟩ ∧
      ofSegments? (1 / 2) [second.turned, first, first] = some box := by
  intro first second box
  obtain ⟨-, boxes, redrawnSame⟩ := ofSegments?_exact (1 / 2 : ℚ)
  have computed : ofSegments? (1 / 2) [first, second] = some box := by
    decide +kernel
  have redrawn : Relation.EqvGen Redraws [first, second]
      [second.turned, first, first] := by
    have repeated : Redraws [first, second] [first, first, second] :=
      .repeated (by simp)
    have permuted : Redraws [first, first, second] [second, first, first] :=
      .permuted (by decide)
    have turned : Redraws [second, first, first]
        [second.turned, first, first] := .turned second [first, first]
    exact ((Relation.EqvGen.rel _ _ repeated).trans _ _ _
      (.rel _ _ permuted)).trans _ _ _ (.rel _ _ turned)
  obtain ⟨found, foundEq, span⟩ := boxes [first, second] (by simp)
  rw [computed, Option.some.injEq] at foundEq
  subst foundEq
  refine ⟨computed, ?_, (redrawnSame _ _ redrawn).symm.trans computed⟩
  convert span using 2 <;> norm_num [box, maxX, maxY]

end ViewBox

end TurtleSystems
