import Mathlib.Analysis.SpecialFunctions.Trigonometric.Basic
import TurtleSystems.Proofs.Config
import TurtleSystems.Proofs.Geometry
import TurtleSystems.Proofs.Json.Numbers
import TurtleSystems.Proofs.Svg
import TurtleSystems.Proofs.Turtle

/-!
# Pictures with a margin

In exact arithmetic the turtle of accepted settings draws in real numbers.  A
picture shows all ends of what it draws just if the margin is not negative, and
then the region that it names has no negative width or height.  The check of
settings lets a negative margin pass.
-/

namespace TurtleSystems

/-- The real number that a finite double-precision number stands for. -/
noncomputable def Binary.real? : Binary → Option ℝ
  | .finite negative significand exponent =>
    some ((if negative then -1 else 1) * significand * 2 ^ exponent : ℚ)
  | _ => none

/-- Drawings in real numbers. -/
noncomputable instance : Directed ℝ where
  toCoordinate := Coordinate.exact
  cosine := Real.cos
  sine := Real.sin

namespace Config

/-- The turtle of settings, as far as its step and its turn are finite. -/
noncomputable def exactTurtle? (config : Config) : Option (Turtle ℝ) := do
  let step ← (Binary.ofFloat config.stepLength).real?
  let degrees ← (Binary.ofFloat config.turnAngleDegrees).real?
  return ⟨step, degrees * (Real.pi / 180)⟩

/-- The margin of settings, if it is finite. -/
noncomputable def exactMargin? (config : Config) : Option ℝ :=
  (Binary.ofFloat config.margin).real?

theorem exists_real?_of_isFinite {number : Float}
    (finite : number.isFinite = true) :
    ∃ value, (Binary.ofFloat number).real? = some value := by
  obtain ⟨negative, significand, exponent, parts⟩ :=
    Binary.ofFloat_of_isFinite finite
  exact ⟨_, congrArg Binary.real? parts⟩

/-- The turtle of accepted settings draws in exact arithmetic. -/
theorem exists_exactTurtle? {config : Config}
    (accepted : config.validate = .ok ()) :
    ∃ turtle, config.exactTurtle? = some turtle := by
  obtain ⟨stepFinite, turnFinite⟩ := isFinite_of_validate accepted
  obtain ⟨step, stepEq⟩ := exists_real?_of_isFinite stepFinite
  obtain ⟨degrees, degreesEq⟩ := exists_real?_of_isFinite turnFinite
  exact ⟨_, by rw [exactTurtle?, stepEq, degreesEq]; rfl⟩

theorem real?_stepLength {config : Config} {turtle : Turtle ℝ}
    (found : config.exactTurtle? = some turtle) :
    (Binary.ofFloat config.stepLength).real? = some turtle.stepLength := by
  cases stepEq : (Binary.ofFloat config.stepLength).real? with
  | none => simp [exactTurtle?, stepEq] at found
  | some step =>
      cases degreesEq : (Binary.ofFloat config.turnAngleDegrees).real? with
      | none => simp [exactTurtle?, degreesEq] at found
      | some degrees =>
          simp only [exactTurtle?, stepEq, degreesEq, Option.bind_eq_bind,
            Option.bind_some, Option.pure_def, Option.some.injEq] at found
          rw [← found]

end Config

namespace ViewBox

open Point (Span)

variable {K : Type} [Field K] [LinearOrder K] [IsStrictOrderedRing K]
variable {box : ViewBox K} {margin : K} {points : Set (Point K)}

/-- A point lies in the region of a box. -/
structure Contains (box : ViewBox K) (point : Point K) : Prop where
  x : box.minX ≤ point.x ∧ point.x ≤ box.maxX
  y : box.minY ≤ point.y ∧ point.y ≤ box.maxY

/-- Points with a margin around them lie in their box just if the margin does
not cut them off. -/
theorem contains_iff_of_span
    (span : Span points (box.innerLow margin) (box.innerHigh margin)) :
    (∀ point ∈ points, box.Contains point) ↔ 0 ≤ margin := by
  constructor
  · intro contains
    obtain ⟨leftmost, member, leftEq⟩ := span.least_x.1
    have leftLe := (contains leftmost member).x.1
    rw [leftEq, innerLow] at leftLe
    linarith
  · intro marginNonneg point member
    have left := span.least_x.2 ⟨point, member, rfl⟩
    have right := span.greatest_x.2 ⟨point, member, rfl⟩
    have upper := span.least_y.2 ⟨point, member, rfl⟩
    have lower := span.greatest_y.2 ⟨point, member, rfl⟩
    simp only [innerLow, innerHigh] at left right upper lower
    exact ⟨⟨by linarith, by linarith⟩, by linarith, by linarith⟩

/-- The margin on both sides has room in a box. -/
theorem two_mul_margin_le
    (span : Span points (box.innerLow margin) (box.innerHigh margin)) :
    2 * margin ≤ box.width ∧ 2 * margin ≤ box.height := by
  obtain ⟨xLe, yLe⟩ := span.low_le_high
  simp only [innerLow, innerHigh, maxX, maxY] at xLe yLe
  constructor <;> linarith

/-- The box of level points has no height but that of its margin. -/
theorem height_eq_of_level
    (span : Span points (box.innerLow margin) (box.innerHigh margin))
    (level : ∀ point ∈ points, point.y = 0) : box.height = 2 * margin := by
  obtain ⟨upper, upperMember, upperEq⟩ := span.least_y.1
  obtain ⟨lower, lowerMember, lowerEq⟩ := span.greatest_y.1
  rw [level upper upperMember, innerLow] at upperEq
  rw [level lower lowerMember, innerHigh, maxY] at lowerEq
  linarith

end ViewBox

theorem Turtle.draw_ne_nil {α : Type} [Directed α] (turtle : Turtle α)
    {program : Text} (draws : 'f' ∈ program) : turtle.draw program ≠ [] := by
  rw [← List.length_pos_iff, turtle.length_draw]
  exact List.count_pos_iff.mpr draws

theorem Turtle.draw_one_segment (turtle : Turtle ℝ) :
    turtle.draw ['f'] = [⟨⟨0, 0⟩, ⟨turtle.stepLength, 0⟩⟩] := by
  have zero : ((0 : Nat) : ℝ) = 0 := Nat.cast_zero
  have originEq : (Point.origin : Point ℝ) = ⟨0, 0⟩ := Point.ext zero zero
  have aheadEq : turtle.ahead start = ⟨turtle.stepLength, 0⟩ := by
    change (⟨(0 : Nat) + Real.cos (0 : Nat) * turtle.stepLength,
      (0 : Nat) + Real.sin (0 : Nat) * turtle.stepLength⟩ : Point ℝ) = _
    simp
  change [(⟨Point.origin, turtle.ahead start⟩ : Segment ℝ)] = _
  rw [originEq, aheadEq]

namespace Svg

section Region

variable {α : Type} {write : α → Text}

theorem quote_not_mem_viewBox (plain : ∀ number, '"' ∉ write number)
    (box? : Option (ViewBox α)) : '"' ∉ viewBox write box? := by
  cases box? with
  | none =>
      rw [viewBox_none]
      decide
  | some box => simp [viewBox_some, plain]

variable [Coordinate α] {margin : α} {segments : List (Segment α)}

/-- The attribute `viewBox` of a picture is the box around its segments. -/
theorem attribute?_viewBox (plain : ∀ number, '"' ∉ write number)
    (margin : α) (segments : List (Segment α)) (rules : RuleSet)
    (seed : Text) :
    attribute? "viewBox".toList (document write margin segments rules seed) =
      some (viewBox write (ViewBox.ofSegments? margin segments)) := by
  have rulesMark : "\" data-rules=\"".toList =
      '"' :: " data-rules=\"".toList := by decide
  have behind (rest : Text) :
      Text.behindFirst? ("viewBox".toList ++ "=\"".toList)
          ("<svg xmlns=\"http://www.w3.org/2000/svg\" viewBox=\"".toList ++
            rest) = some rest := by
    rfl
  delta document
  simp only [List.append_assoc, rulesMark, List.cons_append]
  apply attribute?_eq _ (behind _)
  exact quote_not_mem_viewBox plain _

/-- The box that pictures of segments name, however numbers are written in
them, as long as no quote ends the attribute before its end. -/
structure HasViewBox (margin : α) (segments : List (Segment α))
    (box : ViewBox α) : Prop where
  around : ViewBox.ofSegments? margin segments = some box
  written : ∀ write : α → Text, (∀ number, '"' ∉ write number) →
    ∀ rules seed,
      attribute? "viewBox".toList
          (document write margin segments rules seed) =
        some ([' '].intercalate [write box.minX, write box.minY,
          write box.width, write box.height])

theorem hasViewBox_iff {box : ViewBox α} :
    HasViewBox margin segments box ↔
      ViewBox.ofSegments? margin segments = some box := by
  constructor
  · intro has
    exact has.around
  · intro around
    refine ⟨around, ?_⟩
    intro write plain rules seed
    rw [attribute?_viewBox plain, around]
    rfl

end Region

/-- In exact arithmetic a picture of whatever accepted settings draw shows all
of it just if their margin is not negative, and only then no picture names a
region with a negative width or height. -/
theorem shows_all_iff_of_validate {config : Config}
    (accepted : config.validate = .ok ()) :
    ∃ turtle, config.exactTurtle? = some turtle ∧
      ∀ margin, config.exactMargin? = some margin →
        (∀ program, 'f' ∈ program → ∃ box,
          HasViewBox margin (turtle.draw program) box ∧
          ((∀ point ∈ Segment.ends (turtle.draw program),
            box.Contains point) ↔ 0 ≤ margin)) ∧
        ((∀ program, 'f' ∈ program → ∀ box,
          HasViewBox margin (turtle.draw program) box →
            0 ≤ box.width ∧ 0 ≤ box.height) ↔ 0 ≤ margin) := by
  obtain ⟨turtle, turtleEq⟩ := Config.exists_exactTurtle? accepted
  refine ⟨turtle, turtleEq, ?_⟩
  intro margin _
  have existsBox (program : Text) (draws : 'f' ∈ program) :=
    ViewBox.exists_ofSegments? margin (turtle.draw_ne_nil draws)
  refine ⟨?_, ?_, ?_⟩
  · intro program draws
    obtain ⟨box, around, span⟩ := existsBox program draws
    exact ⟨box, hasViewBox_iff.mpr around, ViewBox.contains_iff_of_span span⟩
  · -- One segment along the first axis is as high as the margin makes it.
    intro always
    have draws : 'f' ∈ ['f'] := List.mem_singleton_self 'f'
    obtain ⟨box, around, span⟩ := existsBox ['f'] draws
    have level : ∀ point ∈ Segment.ends (turtle.draw ['f']),
        point.y = 0 := by
      rw [turtle.draw_one_segment]
      rintro point ⟨segment, member, atEnd⟩
      rw [List.mem_singleton] at member
      subst member
      rcases atEnd with rfl | rfl <;> rfl
    have heightNonneg :=
      (always ['f'] draws box (hasViewBox_iff.mpr around)).2
    rw [ViewBox.height_eq_of_level span level] at heightNonneg
    linarith
  · intro marginNonneg program draws box has
    obtain ⟨found, around, span⟩ := existsBox program draws
    rw [has.around, Option.some.injEq] at around
    subst around
    obtain ⟨widthGe, heightGe⟩ := ViewBox.two_mul_margin_le span
    constructor <;> linarith

theorem standard_margin : Config.standard.exactMargin? = some 10 := by
  have parts : Binary.ofFloat Config.standard.margin =
      .finite false 5629499534213120 (-49) := by decide +kernel
  rw [Config.exactMargin?, parts, Binary.real?]
  norm_num

/-- A wedge drawn with the usual settings is seen whole. -/
theorem shows_all_standard :
    Config.standard.validate = .ok () ∧
      ∃ turtle box, Config.standard.exactTurtle? = some turtle ∧
        HasViewBox 10 (turtle.draw "f+f".toList) box ∧
        (∀ point ∈ Segment.ends (turtle.draw "f+f".toList),
          box.Contains point) ∧
        0 ≤ box.width ∧ 0 ≤ box.height := by
  have accepted := Config.validate_standard
  have draws : 'f' ∈ "f+f".toList := by decide
  have marginNonneg : (0 : ℝ) ≤ 10 := by norm_num
  obtain ⟨turtle, turtleEq, shows⟩ := shows_all_iff_of_validate accepted
  obtain ⟨shown, proper⟩ := shows 10 standard_margin
  obtain ⟨box, has, containsIff⟩ := shown _ draws
  exact ⟨accepted, turtle, box, turtleEq, has,
    containsIff.mpr marginNonneg,
    proper.mpr marginNonneg _ draws box has⟩

/-- With a negative margin, which is accepted as well, the picture of one
segment of length 10 names a region of width -10 and height -20, and shows
neither of its ends. -/
theorem exists_accepted_not_shown :
    let config := { Config.standard with margin := -10 }
    let box : ViewBox ℝ := ⟨10, 10, -10, -20⟩
    config.validate = .ok () ∧ config.exactMargin? = some (-10) ∧
      ∃ turtle, config.exactTurtle? = some turtle ∧
        turtle.draw ['f'] = [⟨⟨0, 0⟩, ⟨10, 0⟩⟩] ∧
        HasViewBox (-10) (turtle.draw ['f']) box ∧
        ∀ point ∈ Segment.ends (turtle.draw ['f']),
          ¬ box.Contains point := by
  intro config box
  have accepted : config.validate = .ok () := by decide +kernel
  have marginEq : config.exactMargin? = some (-10) := by
    have parts : Binary.ofFloat config.margin =
        .finite true 5629499534213120 (-49) := by decide +kernel
    rw [Config.exactMargin?, parts, Binary.real?]
    norm_num
  have stepEq : (Binary.ofFloat config.stepLength).real? = some 10 := by
    have parts : Binary.ofFloat config.stepLength =
        .finite false 5629499534213120 (-49) := by decide +kernel
    rw [parts, Binary.real?]
    norm_num
  obtain ⟨turtle, turtleEq⟩ := Config.exists_exactTurtle? accepted
  have drawn : turtle.draw ['f'] = [⟨⟨0, 0⟩, ⟨10, 0⟩⟩] := by
    have sameStep :=
      (Config.real?_stepLength turtleEq).symm.trans stepEq
    rw [turtle.draw_one_segment, Option.some.inj sameStep]
  refine ⟨accepted, marginEq, turtle, turtleEq, drawn, ?_, ?_⟩
  · rw [drawn, hasViewBox_iff]
    change some (ViewBox.around (-10 : ℝ) ⟨min 0 10, min 0 0⟩
      ⟨max 0 10, max 0 0⟩) = some box
    have two : (Coordinate.ofNat 2 : ℝ) = 2 := Nat.cast_ofNat
    norm_num [ViewBox.around, two, box]
  · rw [drawn]
    rintro point ⟨segment, member, atEnd⟩ contains
    rw [List.mem_singleton] at member
    subst member
    have beyond := contains.y.1
    rcases atEnd with rfl | rfl
    · norm_num [box] at beyond
    · norm_num [box] at beyond

end Svg

end TurtleSystems
