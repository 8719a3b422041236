import Mathlib.Algebra.Order.Field.Power
import Mathlib.Data.Rat.Cast.Order
import Mathlib.Tactic.FieldSimp
import Mathlib.Tactic.Linarith
import Mathlib.Tactic.Positivity
import Mathlib.Tactic.Ring
import TurtleSystems.Decimal.Shortest

/-!
# The numbers that round to a number

The search for the shortest digits ends on a decimal that rounds to the number
it was made for: seventeen digits are enough, because the power of ten that the
search starts from is never too large.  No decimal rounds to two different
numbers: the intervals around them lie apart, and of two that touch only one
has the end between them.
-/

namespace TurtleSystems

/-- The parts of a double-precision number other than zero, as they are read
off its bits. -/
structure Binary.IsCanonical (significand : Nat) (exponent : Int) : Prop where
  significand_pos : 0 < significand
  significand_lt : significand < 2 * leadingBit
  exponent_ge : -1074 ≤ exponent
  exponent_le : exponent ≤ 971
  leads : exponent = -1074 ∨ leadingBit ≤ significand

namespace Decimal

open Binary (IsCanonical leadingBit)

/-- The size of a decimal, without its sign. -/
def size (decimal : Decimal) : ℚ :=
  decimal.coefficient * 10 ^ decimal.exponent

namespace RoundingInterval

variable {interval : RoundingInterval} {tie : Tie}

/-- A distance is within a bound, or just at the bound where the ends count. -/
def Within (interval : RoundingInterval) (distance : ℚ) (bound : Nat) : Prop :=
  distance < bound ∨ interval.inclusive = true ∧ distance = bound

/-- A rational number lies in the interval. -/
structure Contains (interval : RoundingInterval) (number : ℚ) : Prop where
  below : interval.Within (interval.value - number * interval.unit)
    interval.below
  above : interval.Within (number * interval.unit - interval.value)
    interval.above

/-- The unit and the distances of an interval are not zero. -/
structure IsProper (interval : RoundingInterval) : Prop where
  unit_pos : 0 < interval.unit
  below_pos : 0 < interval.below
  above_pos : 0 < interval.above

section Multiples

theorem within_of_reaches {distance bound : Nat}
    (reaches : interval.reaches distance bound = true) :
    interval.Within distance bound := by
  rw [RoundingInterval.reaches, Bool.or_eq_true, decide_eq_true_eq,
    Bool.and_eq_true, beq_iff_eq] at reaches
  rcases reaches with less | ⟨inclusive, rfl⟩
  · exact .inl (Nat.cast_lt.mpr less)
  · exact .inr ⟨inclusive, rfl⟩

theorem within_of_nonpos {distance : ℚ} {bound : Nat}
    (nonpos : distance ≤ 0) (boundPos : 0 < bound) :
    interval.Within distance bound :=
  .inl (lt_of_le_of_lt nonpos (Nat.cast_pos.mpr boundPos))

theorem value_eq (interval : RoundingInterval) :
    (interval.value : ℚ) =
      interval.unit * ((interval.value / interval.unit : Nat) : ℚ) +
        ((interval.value % interval.unit : Nat) : ℚ) := by
  exact_mod_cast (Nat.div_add_mod interval.value interval.unit).symm

theorem contains_lower (proper : interval.IsProper)
    (reaches : interval.reaches (interval.value % interval.unit)
      interval.below = true) :
    interval.Contains ((interval.value / interval.unit : Nat) : ℚ) := by
  have parts := interval.value_eq
  have pastNonneg : (0 : ℚ) ≤ (interval.value % interval.unit : Nat) :=
    Nat.cast_nonneg _
  refine ⟨?_, within_of_nonpos (by linarith) proper.above_pos⟩
  have distanceEq : (interval.value : ℚ) -
      ((interval.value / interval.unit : Nat) : ℚ) * interval.unit =
        (interval.value % interval.unit : Nat) := by linarith
  rw [distanceEq]
  exact within_of_reaches reaches

theorem contains_next (proper : interval.IsProper)
    (reaches : interval.reaches
      (interval.unit - interval.value % interval.unit) interval.above = true) :
    interval.Contains ((interval.value / interval.unit + 1 : Nat) : ℚ) := by
  have parts := interval.value_eq
  have pastLe : interval.value % interval.unit ≤ interval.unit :=
    (Nat.mod_lt _ proper.unit_pos).le
  have missingEq : ((interval.unit - interval.value % interval.unit : Nat) : ℚ)
      = interval.unit - (interval.value % interval.unit : Nat) :=
    Nat.cast_sub pastLe
  have pastLe' : ((interval.value % interval.unit : Nat) : ℚ) ≤
      interval.unit := Nat.cast_le.mpr pastLe
  have distanceEq : ((interval.value / interval.unit + 1 : Nat) : ℚ) *
      interval.unit - interval.value =
        (interval.unit - interval.value % interval.unit : Nat) := by
    rw [missingEq, parts]
    push_cast
    ring
  refine ⟨within_of_nonpos (by linarith) proper.below_pos, ?_⟩
  rw [distanceEq]
  exact within_of_reaches reaches

/-- The multiple that is chosen lies in the interval. -/
theorem contains_of_nearest? (proper : interval.IsProper) {multiple : Nat}
    (found : interval.nearest? tie = some multiple) :
    interval.Contains (multiple : ℚ) := by
  simp only [nearest?] at found
  split at found
  · cases found
  · next lowerReaches _ =>
      cases found
      exact contains_lower proper lowerReaches
  · next _ nextReaches =>
      cases found
      exact contains_next proper nextReaches
  · next lowerReaches nextReaches =>
      have lower := contains_lower proper lowerReaches
      have next := contains_next proper nextReaches
      split at found
      · cases found
        exact lower
      split at found
      · cases found
        exact next
      cases tie with
      | upward =>
          cases found
          exact next
      | even =>
          cases found
          rcases Nat.mod_two_eq_zero_or_one
            (interval.value / interval.unit) with even | odd
          · rw [even]
            exact lower
          · rw [odd]
            exact next

theorem not_reaches_of_nearest?_eq_none
    (missed : interval.nearest? tie = none) :
    interval.reaches (interval.value % interval.unit) interval.below = false ∧
      interval.reaches (interval.unit - interval.value % interval.unit)
        interval.above = false := by
  simp only [nearest?] at missed
  split at missed
  · next lowerMisses nextMisses => exact ⟨lowerMisses, nextMisses⟩
  · cases missed
  · cases missed
  · split at missed
    · cases missed
    split at missed
    · cases missed
    cases tie <;> cases missed

/-- Where the unit is shorter than the interval, a multiple lies in it. -/
theorem exists_nearest? (tie : Tie) (proper : interval.IsProper)
    (short : interval.unit < interval.below + interval.above) :
    ∃ multiple, interval.nearest? tie = some multiple := by
  rw [← Option.ne_none_iff_exists']
  intro missed
  obtain ⟨lowerMisses, nextMisses⟩ := not_reaches_of_nearest?_eq_none missed
  simp only [RoundingInterval.reaches, Bool.or_eq_false_iff,
    decide_eq_false_iff_not] at lowerMisses nextMisses
  have pastLt := Nat.mod_lt interval.value proper.unit_pos
  omega

end Multiples

section Scaling

/-- A power with an integer exponent is a quotient of powers with natural
ones. -/
theorem zpow_mul_pow_toNat {base : Nat} (baseNeZero : base ≠ 0)
    (exponent : Int) :
    (base : ℚ) ^ exponent * ((base ^ (-exponent).toNat : Nat) : ℚ) =
      ((base ^ exponent.toNat : Nat) : ℚ) := by
  have castNeZero : (base : ℚ) ≠ 0 := Nat.cast_ne_zero.mpr baseNeZero
  have exponents : exponent + ((-exponent).toNat : Int) = exponent.toNat := by
    omega
  rw [Nat.cast_pow, Nat.cast_pow, ← zpow_natCast, ← zpow_natCast,
    ← zpow_add₀ castNeZero, exponents]

theorem ten_zpow_mul (exponent : Int) :
    (10 : ℚ) ^ exponent * ((10 ^ (-exponent).toNat : Nat) : ℚ) =
      ((10 ^ exponent.toNat : Nat) : ℚ) :=
  zpow_mul_pow_toNat (by decide) exponent

theorem cast_unit_rescale (interval : RoundingInterval) (exponent : Int) :
    ((interval.rescale exponent).unit : ℚ) =
      10 ^ exponent * interval.unit *
        ((10 ^ (-exponent).toNat : Nat) : ℚ) := by
  change ((interval.unit * 10 ^ exponent.toNat : Nat) : ℚ) = _
  rw [Nat.cast_mul, ← ten_zpow_mul]
  ring

theorem cast_value_rescale (interval : RoundingInterval) (exponent : Int) :
    ((interval.rescale exponent).value : ℚ) =
      interval.value * ((10 ^ (-exponent).toNat : Nat) : ℚ) :=
  Nat.cast_mul _ _

theorem within_mul_iff {distance : ℚ} {bound scale : Nat}
    (scalePos : 0 < scale) :
    interval.Within (distance * scale) (bound * scale) ↔
      interval.Within distance bound := by
  have positive : (0 : ℚ) < scale := Nat.cast_pos.mpr scalePos
  rw [Within, Within, Nat.cast_mul, mul_lt_mul_iff_left₀ positive,
    mul_left_inj' positive.ne']

/-- A number lies in the interval measured in units of a power of ten exactly
if that many units lie in the interval. -/
theorem contains_rescale_iff {exponent : Int} {number : ℚ} :
    (interval.rescale exponent).Contains number ↔
      interval.Contains (number * 10 ^ exponent) := by
  have upPos : 0 < 10 ^ (-exponent).toNat := Nat.pow_pos (by decide)
  have unitEq : number * ((interval.rescale exponent).unit : ℚ) =
      number * 10 ^ exponent * interval.unit *
        ((10 ^ (-exponent).toNat : Nat) : ℚ) := by
    rw [cast_unit_rescale]
    ring
  have belowIff : (interval.rescale exponent).Within
      ((interval.rescale exponent).value -
        number * (interval.rescale exponent).unit)
      (interval.rescale exponent).below ↔
    interval.Within (interval.value - number * 10 ^ exponent * interval.unit)
      interval.below := by
    rw [unitEq, cast_value_rescale, ← sub_mul]
    exact within_mul_iff upPos
  have aboveIff : (interval.rescale exponent).Within
      (number * (interval.rescale exponent).unit -
        (interval.rescale exponent).value)
      (interval.rescale exponent).above ↔
    interval.Within (number * 10 ^ exponent * interval.unit - interval.value)
      interval.above := by
    rw [unitEq, cast_value_rescale, ← sub_mul]
    exact within_mul_iff upPos
  constructor
  · rintro ⟨below, above⟩
    exact ⟨belowIff.mp below, aboveIff.mp above⟩
  · rintro ⟨below, above⟩
    exact ⟨belowIff.mpr below, aboveIff.mpr above⟩

theorem IsProper.rescale (proper : interval.IsProper) (exponent : Int) :
    (interval.rescale exponent).IsProper := by
  have upPos : 0 < Nat.pow 10 (-exponent).toNat := Nat.pow_pos (by decide)
  have downPos : 0 < Nat.pow 10 exponent.toNat := Nat.pow_pos (by decide)
  exact ⟨Nat.mul_pos proper.unit_pos downPos,
    Nat.mul_pos proper.below_pos upPos, Nat.mul_pos proper.above_pos upPos⟩

/-- The search ends with a decimal in the interval if one of the powers of ten
that it tries is short enough. -/
theorem contains_search (tie : Tie) (proper : interval.IsProper)
    {steps offset : Nat} {exponent : Int} (offsetLt : offset < steps)
    (short : (interval.rescale (exponent - offset)).unit <
      (interval.rescale (exponent - offset)).below +
        (interval.rescale (exponent - offset)).above) :
    interval.Contains ((interval.search tie steps exponent).1 *
      10 ^ (interval.search tie steps exponent).2) := by
  induction steps generalizing offset exponent with
  | zero => omega
  | succ steps ih =>
      rw [search]
      cases found : (interval.rescale exponent).nearest? tie with
      | some multiple =>
          exact contains_rescale_iff.mp
            (contains_of_nearest? (proper.rescale exponent) found)
      | none =>
          cases offset with
          | zero =>
              obtain ⟨multiple, hit⟩ := exists_nearest? tie
                (proper.rescale exponent) (by simpa using short)
              rw [hit] at found
              cases found
          | succ offset =>
              have offsetEq : exponent - ((offset + 1 : Nat) : Int) =
                  exponent - 1 - (offset : Int) := by omega
              rw [offsetEq] at short
              exact ih (by omega) short

end Scaling

section Estimate

/-- A power of ten is not larger than the middle of the interval. -/
def ReachesPower (interval : RoundingInterval) (exponent : Int) : Prop :=
  (10 : ℚ) ^ exponent * interval.unit ≤ interval.value

theorem reachesPower_iff {exponent : Int} :
    (interval.rescale exponent).unit ≤ (interval.rescale exponent).value ↔
      interval.ReachesPower exponent := by
  have upPos : (0 : ℚ) < ((10 ^ (-exponent).toNat : Nat) : ℚ) := by
    positivity
  rw [← Nat.cast_le (α := ℚ), cast_unit_rescale, cast_value_rescale,
    mul_le_mul_iff_left₀ upPos, ReachesPower]

/-- Powers of ten and two are compared through two powers that are nearly
equal. -/
theorem ten_zpow_le_two_zpow_of_pow {tens twos : Nat} (tensNeZero : tens ≠ 0)
    {exponent power : Int}
    (nearly : ((10 : ℚ) ^ tens) ^ exponent ≤ ((2 : ℚ) ^ twos) ^ exponent)
    (exponentLe : twos * exponent ≤ tens * power) :
    (10 : ℚ) ^ exponent ≤ 2 ^ power := by
  refine le_of_pow_le_pow_left₀ tensNeZero (by positivity) ?_
  calc ((10 : ℚ) ^ exponent) ^ tens
      = ((10 : ℚ) ^ tens) ^ exponent := by
        rw [← zpow_natCast, ← zpow_natCast, ← zpow_mul, ← zpow_mul, mul_comm]
    _ ≤ ((2 : ℚ) ^ twos) ^ exponent := nearly
    _ = 2 ^ (twos * exponent) := by rw [← zpow_natCast, ← zpow_mul]
    _ ≤ 2 ^ (tens * power) := zpow_le_zpow_right₀ one_le_two exponentLe
    _ = (2 ^ power) ^ tens := by rw [← zpow_natCast, ← zpow_mul, mul_comm]

/-- The estimate of the logarithm of two is good enough for numbers in the
range of double precision. -/
theorem ten_zpow_le_two_zpow {guess power : Int}
    (guessGe : -5000 ≤ guess) (guessLe : guess ≤ 5000)
    (estimate : 100000 * guess ≤ 30103 * power) :
    (10 : ℚ) ^ (guess - 1) ≤ 2 ^ power := by
  rcases Int.le_total 0 (guess - 1) with nonneg | nonpos
  · have nearly : (10 : ℚ) ^ 31 ≤ 2 ^ 103 := by norm_num
    refine ten_zpow_le_two_zpow_of_pow (by decide)
      (zpow_le_zpow_left₀ nonneg (by positivity) nearly) ?_
    push_cast
    omega
  · have nearly : (2 : ℚ) ^ 93 ≤ 10 ^ 28 := by norm_num
    have inverted : ((10 : ℚ) ^ 28) ^ (guess - 1) ≤ (2 ^ 93) ^ (guess - 1) := by
      have powers := zpow_le_zpow_left₀ (Int.neg_nonneg_of_nonpos nonpos)
        (by positivity) nearly
      rw [zpow_neg, zpow_neg] at powers
      exact (inv_le_inv₀ (by positivity) (by positivity)).mp powers
    refine ten_zpow_le_two_zpow_of_pow (by decide) inverted ?_
    push_cast
    omega

/-- The estimate of the digits in front of the point is never too large. -/
theorem reachesPower_wholeDigits (valueNeZero : interval.value ≠ 0)
    (valueSmall : Nat.log2 interval.value < 5000)
    (unitSmall : Nat.log2 interval.unit < 5000) :
    interval.ReachesPower (interval.wholeDigits - 1) := by
  simp only [wholeDigits]
  split
  · next reaches =>
      rw [show ∀ guess : Int, guess + 2 - 1 = guess + 1 by omega]
      exact reachesPower_iff.mp (of_decide_eq_true reaches)
  split
  · next reaches =>
      rw [add_sub_cancel_right]
      exact reachesPower_iff.mp (of_decide_eq_true reaches)
  rw [Int.fdiv_eq_ediv_of_nonneg _ (by decide)]
  have valueGe : ((2 ^ Nat.log2 interval.value : Nat) : ℚ) ≤ interval.value :=
    Nat.cast_le.mpr (Nat.log2_self_le valueNeZero)
  have unitLe : (interval.unit : ℚ) ≤
      ((2 ^ (Nat.log2 interval.unit + 1) : Nat) : ℚ) :=
    Nat.cast_le.mpr Nat.lt_log2_self.le
  generalize Nat.log2 interval.value = valueBits at *
  generalize Nat.log2 interval.unit = unitBits at *
  set guess := ((valueBits : Int) - unitBits - 1) * 30103 / 100000
  have powerLe : (10 : ℚ) ^ (guess - 1) ≤
      2 ^ ((valueBits : Int) - unitBits - 1) :=
    ten_zpow_le_two_zpow (by omega) (by omega) (by omega)
  calc (10 : ℚ) ^ (guess - 1) * interval.unit
      ≤ 2 ^ ((valueBits : Int) - unitBits - 1) *
          ((2 ^ (unitBits + 1) : Nat) : ℚ) := by gcongr
    _ = ((2 ^ valueBits : Nat) : ℚ) := by
        rw [Nat.cast_pow, Nat.cast_pow, ← zpow_natCast, ← zpow_natCast,
          Nat.cast_ofNat, ← zpow_add₀ two_ne_zero]
        congr 1
        push_cast
        omega
    _ ≤ interval.value := valueGe

/-- Sixteen powers of ten below one that the middle of the interval reaches,
the unit is shorter than the interval. -/
theorem ReachesPower.short_rescale {exponent : Int}
    (reaches : interval.ReachesPower exponent)
    (valueLt : interval.value <
      10 ^ 16 * (interval.below + interval.above)) :
    (interval.rescale (exponent - (16 : Nat))).unit <
      (interval.rescale (exponent - (16 : Nat))).below +
        (interval.rescale (exponent - (16 : Nat))).above := by
  set lower := exponent - (16 : Nat)
  have upPos : (0 : ℚ) < ((10 ^ (-lower).toNat : Nat) : ℚ) := by positivity
  have powerEq : (10 : ℚ) ^ exponent = 10 ^ lower * 10 ^ 16 := by
    rw [← zpow_natCast, ← zpow_add₀ (by norm_num), sub_add_cancel]
  have valueLt' : (interval.value : ℚ) <
      10 ^ 16 * (interval.below + interval.above) := by exact_mod_cast valueLt
  have unitLt : (10 : ℚ) ^ lower * interval.unit <
      interval.below + interval.above := by
    rw [ReachesPower, powerEq] at reaches
    linarith
  have endsEq : (((interval.rescale lower).below +
      (interval.rescale lower).above : Nat) : ℚ) =
        (interval.below + interval.above) *
          ((10 ^ (-lower).toNat : Nat) : ℚ) := by
    change ((interval.below * 10 ^ (-lower).toNat +
      interval.above * 10 ^ (-lower).toNat : Nat) : ℚ) = _
    push_cast
    ring
  rw [← Nat.cast_lt (α := ℚ), cast_unit_rescale, endsEq]
  exact mul_lt_mul_of_pos_right unitLt upPos

end Estimate

section Parts

variable {significand other : Nat} {exponent : Int} {number : ℚ}

/-- How far the interval reaches below a number, in quarters of the distance
between it and the next one. -/
def quartersBelow (significand : Nat) (exponent : Int) : Nat :=
  if significand = leadingBit ∧ -1074 < exponent then 1 else 2

theorem quartersBelow_cases (significand : Nat) (exponent : Int) :
    significand = leadingBit ∧ quartersBelow significand exponent = 1 ∨
      quartersBelow significand exponent = 2 := by
  by_cases narrow : significand = leadingBit ∧ -1074 < exponent
  · exact .inl ⟨narrow.1, if_pos narrow⟩
  · exact .inr (if_neg narrow)

theorem ofParts_eq (significand : Nat) (exponent : Int) :
    ofParts significand exponent =
      { value := 4 * significand * 2 ^ (exponent - 2).toNat
        unit := 2 ^ (-(exponent - 2)).toNat
        below := quartersBelow significand exponent *
          2 ^ (exponent - 2).toNat
        above := 2 * 2 ^ (exponent - 2).toNat
        inclusive := significand % 2 = 0 } :=
  rfl

theorem isProper_ofParts (significand : Nat) (exponent : Int) :
    (ofParts significand exponent).IsProper := by
  have scalePos : 0 < 2 ^ (exponent - 2).toNat := Nat.pow_pos (by decide)
  have belowPos : 0 < quartersBelow significand exponent := by
    have := quartersBelow_cases significand exponent
    omega
  exact ⟨Nat.pow_pos (by decide), Nat.mul_pos belowPos scalePos,
    Nat.mul_pos (by decide) scalePos⟩

/-- An interval is wider than its middle divided by the sixteenth power of
ten. -/
theorem value_lt (canonical : IsCanonical significand exponent) :
    (ofParts significand exponent).value <
      10 ^ 16 * ((ofParts significand exponent).below +
        (ofParts significand exponent).above) := by
  have scalePos : 0 < 2 ^ (exponent - 2).toNat := Nat.pow_pos (by decide)
  have quartersLt : 4 * significand <
      10 ^ 16 * (quartersBelow significand exponent + 2) := by
    have significandLt := canonical.significand_lt
    have quarters := quartersBelow_cases significand exponent
    simp only [leadingBit] at significandLt quarters
    omega
  calc 4 * significand * 2 ^ (exponent - 2).toNat
      < 10 ^ 16 * (quartersBelow significand exponent + 2) *
          2 ^ (exponent - 2).toNat :=
        Nat.mul_lt_mul_of_pos_right quartersLt scalePos
    _ = _ := by
        rw [ofParts_eq]
        ring

theorem log2_value_lt (canonical : IsCanonical significand exponent) :
    Nat.log2 (ofParts significand exponent).value < 5000 := by
  have scalePos : 0 < 2 ^ (exponent - 2).toNat := Nat.pow_pos (by decide)
  have quartersPos : 0 < 4 * significand :=
    Nat.mul_pos (by decide) canonical.significand_pos
  have quartersLt : 4 * significand < 2 ^ 55 := by
    have significandLt := canonical.significand_lt
    simp only [leadingBit] at significandLt
    omega
  have valueLt : 4 * significand * 2 ^ (exponent - 2).toNat <
      2 ^ (55 + (exponent - 2).toNat) := by
    rw [pow_add]
    exact Nat.mul_lt_mul_of_pos_right quartersLt scalePos
  have bitsLt := (Nat.log2_lt (Nat.mul_pos quartersPos scalePos).ne').mpr
    valueLt
  have exponentLe := canonical.exponent_le
  change Nat.log2 (4 * significand * 2 ^ (exponent - 2).toNat) < 5000
  omega

theorem log2_unit_lt (canonical : IsCanonical significand exponent) :
    Nat.log2 (ofParts significand exponent).unit < 5000 := by
  have exponentGe := canonical.exponent_ge
  change Nat.log2 (2 ^ (-(exponent - 2)).toNat) < 5000
  rw [Nat.log2_two_pow]
  omega

/-- The scale of an interval is a quarter of the distance to the next
number. -/
theorem scale_eq (exponent : Int) :
    ((2 ^ (exponent - 2).toNat : Nat) : ℚ) =
      2 ^ (exponent - 2) * ((2 ^ (-(exponent - 2)).toNat : Nat) : ℚ) :=
  (zpow_mul_pow_toNat (by decide) _).symm

theorem ofParts_within_iff {quarters : ℚ} {bound : Nat} :
    (ofParts significand exponent).Within
        (quarters * ((2 ^ (-(exponent - 2)).toNat : Nat) : ℚ))
        (bound * 2 ^ (exponent - 2).toNat) ↔
      quarters < bound * 2 ^ (exponent - 2) ∨
        significand % 2 = 0 ∧ quarters = bound * 2 ^ (exponent - 2) := by
  have unitPos : (0 : ℚ) < ((2 ^ (-(exponent - 2)).toNat : Nat) : ℚ) := by
    positivity
  rw [Within, Nat.cast_mul, scale_eq, ← mul_assoc,
    mul_lt_mul_iff_left₀ unitPos, mul_left_inj' unitPos.ne']
  exact or_congr_right (and_congr_left' decide_eq_true_iff)

/-- The reals that lie in the interval of a number, measured in quarters of
the distance to the next one. -/
theorem contains_ofParts_iff :
    (ofParts significand exponent).Contains number ↔
      (4 * significand * 2 ^ (exponent - 2) - number <
          quartersBelow significand exponent * 2 ^ (exponent - 2) ∨
        significand % 2 = 0 ∧ 4 * significand * 2 ^ (exponent - 2) - number =
          quartersBelow significand exponent * 2 ^ (exponent - 2)) ∧
      (number - 4 * significand * 2 ^ (exponent - 2) <
          (2 : Nat) * 2 ^ (exponent - 2) ∨
        significand % 2 = 0 ∧ number - 4 * significand * 2 ^ (exponent - 2) =
          (2 : Nat) * 2 ^ (exponent - 2)) := by
  have valueEq : ((ofParts significand exponent).value : ℚ) =
      4 * significand * 2 ^ (exponent - 2) *
        ((2 ^ (-(exponent - 2)).toNat : Nat) : ℚ) := by
    rw [ofParts_eq, Nat.cast_mul, scale_eq]
    push_cast
    ring
  have unitEq : (ofParts significand exponent).unit =
      2 ^ (-(exponent - 2)).toNat := rfl
  rw [← ofParts_within_iff, ← ofParts_within_iff, sub_mul, sub_mul,
    ← valueEq, ← unitEq]
  constructor
  · rintro ⟨below, above⟩
    exact ⟨below, above⟩
  · rintro ⟨below, above⟩
    exact ⟨below, above⟩

section Bounds

variable (contains : (ofParts significand exponent).Contains number)
include contains

theorem Contains.ge :
    (4 * significand - quartersBelow significand exponent) *
      2 ^ (exponent - 2) ≤ number := by
  rcases (contains_ofParts_iff.mp contains).1 with less | ⟨-, equal⟩ <;>
    linarith

theorem Contains.le :
    number ≤ (4 * significand + 2) * 2 ^ (exponent - 2) := by
  rcases (contains_ofParts_iff.mp contains).2 with less | ⟨-, equal⟩ <;>
    push_cast at * <;> linarith

/-- The ends of the interval of an odd significand do not belong to it. -/
theorem Contains.bounds_of_odd (odd : significand % 2 = 1) :
    (4 * significand - quartersBelow significand exponent) *
        2 ^ (exponent - 2) < number ∧
      number < (4 * significand + 2) * 2 ^ (exponent - 2) := by
  obtain ⟨below, above⟩ := contains_ofParts_iff.mp contains
  rw [odd] at below above
  simp only [one_ne_zero, false_and, or_false] at below above
  push_cast at above
  constructor <;> linarith

theorem Contains.pos (significandPos : 0 < significand) : 0 < number := by
  have quartersLe : (quartersBelow significand exponent : ℚ) ≤ 2 := by
    exact_mod_cast (show quartersBelow significand exponent ≤ 2 by
      have := quartersBelow_cases significand exponent
      omega)
  have significandGe : (1 : ℚ) ≤ significand := by
    exact_mod_cast significandPos
  have quarterPos : (0 : ℚ) < 2 ^ (exponent - 2) := by positivity
  have := contains.ge
  nlinarith

/-- What lies in the interval of a number is well below the next power of
two, at which the numbers start to lie farther apart. -/
theorem Contains.lt_top (significandLt : significand < 2 * leadingBit) :
    number < (8 * leadingBit - 2) * 2 ^ (exponent - 2) := by
  have quarterPos : (0 : ℚ) < 2 ^ (exponent - 2) := by positivity
  by_cases greatest : significand + 1 = 2 * leadingBit
  · have odd : significand % 2 = 1 := by omega
    have greatest' : (significand : ℚ) + 1 = 2 * leadingBit := by
      exact_mod_cast greatest
    calc number
        < (4 * significand + 2) * 2 ^ (exponent - 2) :=
          (contains.bounds_of_odd odd).2
      _ = (8 * leadingBit - 2) * 2 ^ (exponent - 2) := by
          congr 1
          linarith
  · have significandLe : (significand : ℚ) + 2 ≤ 2 * leadingBit := by
      exact_mod_cast (by omega : significand + 2 ≤ 2 * leadingBit)
    calc number
        ≤ (4 * significand + 2) * 2 ^ (exponent - 2) := contains.le
      _ < (8 * leadingBit - 2) * 2 ^ (exponent - 2) :=
          mul_lt_mul_of_pos_right (by linarith) quarterPos

/-- What lies in the interval of a number with the leading bit is not far
below the power of two below it. -/
theorem Contains.ge_bottom (exponentGt : -1074 < exponent)
    (leads : leadingBit ≤ significand) :
    (4 * leadingBit - 1) * 2 ^ (exponent - 2) ≤ number := by
  have quarterPos : (0 : ℚ) < 2 ^ (exponent - 2) := by positivity
  have quartersLe : 4 * leadingBit + quartersBelow significand exponent ≤
      4 * significand + 1 := by
    by_cases least : significand = leadingBit
    · rw [quartersBelow, if_pos ⟨least, exponentGt⟩, least]
    · have := quartersBelow_cases significand exponent
      omega
  have quartersLe' : (4 * leadingBit + quartersBelow significand exponent : ℚ)
      ≤ 4 * significand + 1 := by exact_mod_cast quartersLe
  calc (4 * leadingBit - 1 : ℚ) * 2 ^ (exponent - 2)
      ≤ (4 * significand - quartersBelow significand exponent) *
          2 ^ (exponent - 2) :=
        mul_le_mul_of_nonneg_right (by linarith) quarterPos.le
    _ ≤ number := contains.ge

end Bounds

section Disjoint

variable {otherExponent : Int}

/-- Numbers with different exponents have no decimal in common. -/
theorem Contains.exponent_le
    (contains : (ofParts significand exponent).Contains number)
    (containsOther : (ofParts other otherExponent).Contains number)
    (canonical : IsCanonical significand exponent)
    (canonicalOther : IsCanonical other otherExponent) :
    otherExponent ≤ exponent := by
  by_contra! less
  have exponentGe := canonical.exponent_ge
  have leads : leadingBit ≤ other :=
    canonicalOther.leads.resolve_left (by omega)
  have quarterPos : (0 : ℚ) < 2 ^ (exponent - 2) := by positivity
  have twice : (2 : ℚ) * 2 ^ (exponent - 2) ≤ 2 ^ (otherExponent - 2) := by
    rw [← zpow_one_add₀ two_ne_zero]
    exact zpow_le_zpow_right₀ one_le_two (by omega)
  have leadingPos : (0 : ℚ) ≤ 4 * leadingBit - 1 := by
    norm_num [leadingBit]
  have top := contains.lt_top canonical.significand_lt
  have bottom := containsOther.ge_bottom (by omega) leads
  have raised := mul_le_mul_of_nonneg_left twice leadingPos
  linarith

/-- Numbers with the same exponent have no decimal in common: of two
neighbours one is odd and leaves the end between them to the other. -/
theorem Contains.significand_le
    (contains : (ofParts significand exponent).Contains number)
    (containsOther : (ofParts other exponent).Contains number) :
    other ≤ significand := by
  by_contra! less
  have quarterPos : (0 : ℚ) < 2 ^ (exponent - 2) := by positivity
  have quartersLe : 4 * significand + 2 + quartersBelow other exponent ≤
      4 * other := by
    have := quartersBelow_cases other exponent
    omega
  have quartersLe' : (4 * significand + 2 : ℚ) ≤
      4 * other - quartersBelow other exponent := by
    rw [le_sub_iff_add_le]
    exact_mod_cast quartersLe
  have apart : (4 * significand + 2 : ℚ) * 2 ^ (exponent - 2) ≤
      (4 * other - quartersBelow other exponent) * 2 ^ (exponent - 2) :=
    mul_le_mul_of_nonneg_right quartersLe' quarterPos.le
  have top := contains.le
  have bottom := containsOther.ge
  rcases Nat.mod_two_eq_zero_or_one significand with even | odd
  · rcases Nat.mod_two_eq_zero_or_one other with otherEven | otherOdd
    · have farther : (4 * significand + 2 : ℚ) <
          4 * other - quartersBelow other exponent := by
        rw [lt_sub_iff_add_lt]
        have := quartersBelow_cases other exponent
        exact_mod_cast (by omega : 4 * significand + 2 +
          quartersBelow other exponent < 4 * other)
      have := mul_lt_mul_of_pos_right farther quarterPos
      linarith
    · have := (containsOther.bounds_of_odd otherOdd).1
      linarith
  · have := (contains.bounds_of_odd odd).2
    linarith

/-- No decimal rounds to two different numbers. -/
theorem Contains.unique
    (contains : (ofParts significand exponent).Contains number)
    (containsOther : (ofParts other otherExponent).Contains number)
    (canonical : IsCanonical significand exponent)
    (canonicalOther : IsCanonical other otherExponent) :
    significand = other ∧ exponent = otherExponent := by
  obtain rfl : exponent = otherExponent := le_antisymm
    (containsOther.exponent_le contains canonicalOther canonical)
    (contains.exponent_le containsOther canonical canonicalOther)
  exact ⟨le_antisymm (containsOther.significand_le contains)
    (contains.significand_le containsOther), rfl⟩

end Disjoint

end Parts

end RoundingInterval

end Decimal

end TurtleSystems
