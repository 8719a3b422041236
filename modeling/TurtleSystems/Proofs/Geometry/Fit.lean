import Mathlib.Algebra.Order.Field.Basic
import Mathlib.Tactic.Linarith
import TurtleSystems.Proofs.Geometry

/-!
# Fitting a box to the screen

In exact arithmetic the ranges that an area of character cells shows of a box
are determined by what they are for: dots are square, the box is in the middle
with its second axis turned over, nothing of it is cut off, and on one of the
axes there is nothing besides it.
-/

namespace TurtleSystems.ViewBox

variable {K : Type} [Field K] [LinearOrder K]

namespace Range

/-- How far a range reaches. -/
def length (range : Range K) : K :=
  range.high - range.low

def middle (range : Range K) : K :=
  (range.low + range.high) / 2

end Range

/-- The dots side by side in an area of character cells, which has at least
one column. -/
def dotsAcross (columns : Nat) : Nat :=
  2 * max 1 columns

/-- The dots one above the other in an area of character cells, which has at
least one row. -/
def dotsDown (rows : Nat) : Nat :=
  4 * max 1 rows

/-- Ranges of coordinates show a box whole and undistorted in an area of
character cells. -/
structure IsFit (box : ViewBox K) (columns rows : Nat) (x y : Range K) :
    Prop where
  same_scale : x.length / dotsAcross columns = y.length / dotsDown rows
  middle_x : x.middle = (box.minX + box.maxX) / 2
  middle_y : y.middle = -((box.minY + box.maxY) / 2)
  contains_x : x.low ≤ box.minX ∧ box.maxX ≤ x.high
  contains_y : y.low ≤ -box.maxY ∧ -box.minY ≤ y.high
  tight : x.length = box.width ∨ y.length = box.height

/-- The units that a dot stands for: as many as both axes need. -/
def scale (box : ViewBox K) (columns rows : Nat) : K :=
  max (box.width / dotsAcross columns) (box.height / dotsDown rows)

theorem fit_eq (box : ViewBox K) (columns rows : Nat) :
    box.fit columns rows =
      (Range.about ((box.minX + box.maxX) / 2)
          (box.scale columns rows * dotsAcross columns / 2),
        Range.about (-(box.minY + box.maxY) / 2)
          (box.scale columns rows * dotsDown rows / 2)) := by
  have across : (Coordinate.ofNat (max columns 1) * Coordinate.ofNat 2 : K) =
      dotsAcross columns := by
    rw [dotsAcross, max_comm, mul_comm, Nat.cast_mul]
    rfl
  have down : (Coordinate.ofNat (max rows 1) * Coordinate.ofNat 4 : K) =
      dotsDown rows := by
    rw [dotsDown, max_comm, mul_comm, Nat.cast_mul]
    rfl
  have half : (Coordinate.ofNat 2 : K) = 2 := Nat.cast_ofNat
  simp only [fit, across, down]
  rw [half]
  rfl

variable [IsStrictOrderedRing K]
variable {box : ViewBox K} {columns rows : Nat} {x y : Range K}

section Ranges

variable {range : Range K} {low high center half : K}

/-- A range is known from its middle and how far it reaches. -/
theorem about_eq_iff :
    Range.about center half = range ↔
      range.middle = center ∧ range.length = 2 * half := by
  constructor
  · rintro rfl
    simp only [Range.about, Range.middle, Range.length]
    constructor <;> ring
  · rintro ⟨rfl, reaches⟩
    rw [Range.length] at reaches
    have halfEq : half = (range.high - range.low) / 2 := by linarith
    cases range with
    | mk low high =>
        simp only [Range.about, Range.middle, halfEq, Range.mk.injEq]
        constructor <;> ring

/-- Around the same middle the longer range contains the other. -/
theorem contains_iff_of_middle (same : range.middle = (low + high) / 2) :
    range.low ≤ low ∧ high ≤ range.high ↔ high - low ≤ range.length := by
  rw [Range.middle] at same
  rw [Range.length]
  constructor
  · rintro ⟨below, above⟩
    linarith
  · intro longer
    constructor <;> linarith

theorem contains_x_iff (same : x.middle = (box.minX + box.maxX) / 2) :
    x.low ≤ box.minX ∧ box.maxX ≤ x.high ↔ box.width ≤ x.length := by
  rw [contains_iff_of_middle same, maxX, add_sub_cancel_left]

theorem contains_y_iff (same : y.middle = -((box.minY + box.maxY) / 2)) :
    y.low ≤ -box.maxY ∧ -box.minY ≤ y.high ↔ box.height ≤ y.length := by
  have turned : y.middle = (-box.maxY + -box.minY) / 2 := by
    rw [same]
    ring
  rw [contains_iff_of_middle turned, maxY, neg_sub_neg, add_sub_cancel_left]

end Ranges

theorem dotsAcross_pos (columns : Nat) : (0 : K) < dotsAcross columns := by
  rw [Nat.cast_pos, dotsAcross]
  omega

theorem dotsDown_pos (rows : Nat) : (0 : K) < dotsDown rows := by
  rw [Nat.cast_pos, dotsDown]
  omega

/-- The scale is the one at which both axes have room and one of them has none
to spare. -/
theorem scale_eq_iff (box : ViewBox K) (columns rows : Nat) {scale : K} :
    box.scale columns rows = scale ↔
      (box.width ≤ scale * dotsAcross columns ∧
        box.height ≤ scale * dotsDown rows) ∧
      (scale * dotsAcross columns = box.width ∨
        scale * dotsDown rows = box.height) := by
  have acrossPos : (0 : K) < dotsAcross columns := dotsAcross_pos columns
  have downPos : (0 : K) < dotsDown rows := dotsDown_pos rows
  rw [← div_le_iff₀ acrossPos, ← div_le_iff₀ downPos,
    ← eq_div_iff acrossPos.ne', ← eq_div_iff downPos.ne', ViewBox.scale]
  constructor
  · rintro rfl
    refine ⟨⟨le_max_left _ _, le_max_right _ _⟩, ?_⟩
    exact max_choice _ _
  · rintro ⟨⟨widthLe, heightLe⟩, rfl | rfl⟩
    · exact max_eq_left heightLe
    · exact max_eq_right widthLe

/-- The ranges that are shown of a box, whatever its shape and however small the
area, show it whole and undistorted, and they are the only ones that do. -/
theorem fit_eq_iff (box : ViewBox K) (columns rows : Nat) (x y : Range K) :
    box.fit columns rows = (x, y) ↔ box.IsFit columns rows x y := by
  have acrossPos : (0 : K) < dotsAcross columns := dotsAcross_pos columns
  have downPos : (0 : K) < dotsDown rows := dotsDown_pos rows
  rw [fit_eq, Prod.mk.injEq, about_eq_iff, about_eq_iff,
    mul_div_cancel₀ _ two_ne_zero, mul_div_cancel₀ _ two_ne_zero, neg_div]
  constructor
  · rintro ⟨⟨middleX, lengthX⟩, middleY, lengthY⟩
    obtain ⟨⟨widthLe, heightLe⟩, tight⟩ :=
      (box.scale_eq_iff columns rows).mp rfl
    rw [← lengthX] at widthLe tight
    rw [← lengthY] at heightLe tight
    refine ⟨?_, middleX, middleY, (contains_x_iff middleX).mpr widthLe,
      (contains_y_iff middleY).mpr heightLe, tight⟩
    rw [lengthX, lengthY, mul_div_cancel_right₀ _ acrossPos.ne',
      mul_div_cancel_right₀ _ downPos.ne']
  · intro isFit
    have lengthX : x.length =
        x.length / dotsAcross columns * dotsAcross columns :=
      (div_mul_cancel₀ _ acrossPos.ne').symm
    have lengthY : y.length =
        x.length / dotsAcross columns * dotsDown rows := by
      rw [isFit.same_scale, div_mul_cancel₀ _ downPos.ne']
    have scaleEq : box.scale columns rows =
        x.length / dotsAcross columns := by
      rw [scale_eq_iff, ← lengthX, ← lengthY]
      exact ⟨⟨(contains_x_iff isFit.middle_x).mp isFit.contains_x,
        (contains_y_iff isFit.middle_y).mp isFit.contains_y⟩, isFit.tight⟩
    rw [scaleEq, ← lengthX, ← lengthY]
    exact ⟨⟨isFit.middle_x, rfl⟩, isFit.middle_y, rfl⟩

/-- A wide box fills a square area, and also one without columns and rows,
from side to side. -/
theorem fit_eq_iff_wide :
    let box : ViewBox ℚ := ⟨0, 0, 100, 10⟩
    box.IsFit 50 25 ⟨0, 100⟩ ⟨-55, 45⟩ ∧
      box.IsFit 0 0 ⟨0, 100⟩ ⟨-105, 95⟩ := by
  intro box
  constructor
  · exact (fit_eq_iff box 50 25 ⟨0, 100⟩ ⟨-55, 45⟩).mp (by decide +kernel)
  · exact (fit_eq_iff box 0 0 ⟨0, 100⟩ ⟨-105, 95⟩).mp (by decide +kernel)

end TurtleSystems.ViewBox
