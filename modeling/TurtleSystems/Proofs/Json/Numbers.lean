import Mathlib.Data.List.TakeDrop
import Mathlib.Tactic.ByContra
import TurtleSystems.Json.Reader
import TurtleSystems.Json.Writer
import TurtleSystems.Proofs.Text

/-!
# Numbers in JSON

A number that is written is read as one numeral, whatever stands behind it, as
long as that cannot be taken for a part of the number.  An integer of at most
64 bits comes back.  A finite floating-point number comes back if its shortest
digits do, which the fast reading of numerals does not promise for all of
them.
-/

namespace TurtleSystems

namespace Decimal

theorem isDigit_of_mem_digits {number : Nat} {character : Char}
    (member : character ∈ digits number) : isDigit character = true := by
  have digit : character.isDigit = true :=
    Nat.isDigit_of_mem_toDigits (by decide) (Nat.le_refl 10) member
  simpa [isDigit, Char.isDigit, Char.le_def] using digit

theorem digits_ne_nil (number : Nat) : digits number ≠ [] :=
  Nat.toDigits_ne_nil

/-- The digits of a number other than zero begin with one other than zero. -/
theorem head?_digits_ne_zero {number : Nat} (neZero : number ≠ 0) :
    (digits number).head? ≠ some '0' := by
  induction number using Nat.strongRecOn with
  | ind number ih =>
      rcases Nat.lt_or_ge number 10 with small | large
      · have single : ∀ digit < 10, digit ≠ 0 →
            (Nat.toDigits 10 digit).head? ≠ some '0' := by decide
        exact single number small neZero
      · have split : digits number =
            digits (number / 10) ++ [(number % 10).digitChar] :=
          Nat.toDigits_of_base_le (by decide) large
        rw [split, List.head?_append_of_ne_nil _ (digits_ne_nil _)]
        exact ih (number / 10) (by omega) (by omega)

theorem ofDigits_digits (number : Nat) : ofDigits (digits number) = number :=
  Nat.ofDigitChars_toDigits (by decide) (Nat.le_refl 10)

end Decimal

namespace Binary

open Float.Model in
theorem toNat_unpackExponent (number : Float) :
    (@UnpackedFloat.unpackExponent Format.binary64
        number.toModel.toBits.toBitVec).toNat =
      number.toBits.toNat / leadingBit % 2048 := by
  simp only [UnpackedFloat.unpackExponent, BitVec.toNat_cast,
    BitVec.extractLsb_toNat, Nat.shiftRight_eq_div_pow]
  rfl

open Float.Model in
/-- A number is finite when its exponent is not the greatest one. -/
theorem isFinite_iff (number : Float) :
    number.isFinite = true ↔
      number.toBits.toNat / leadingBit % 2048 ≠ 2047 := by
  have finiteIff : number.isFinite = true ↔
      @UnpackedFloat.unpackExponent Format.binary64
        number.toModel.toBits.toBitVec ≠ -1#_ := by
    change UnpackedFloat.isFinite (if _ then if _ then _ else _
      else if _ then if _ : _ then _ else _ else _) = true ↔ _
    by_cases greatest : @UnpackedFloat.unpackExponent Format.binary64
        number.toModel.toBits.toBitVec = -1#_
    · rw [if_pos greatest]
      refine iff_of_false ?_ (not_not.mpr greatest)
      split <;> exact Bool.false_ne_true
    · rw [if_neg greatest]
      refine iff_of_true ?_ greatest
      by_cases least : @UnpackedFloat.unpackExponent Format.binary64
          number.toModel.toBits.toBitVec = 0#_
      · rw [if_pos least]
        by_cases zero : @UnpackedFloat.unpackMantissa Format.binary64
            number.toModel.toBits.toBitVec = 0#_
        · rw [dif_pos zero]
          rfl
        · rw [dif_neg zero]
          rfl
      · rw [if_neg least]
        rfl
  rw [finiteIff, Ne, ← BitVec.toNat_inj, toNat_unpackExponent]
  rfl

theorem ofFloat_of_isFinite {number : Float}
    (finite : number.isFinite = true) :
    ∃ negative significand exponent,
      ofFloat number = .finite negative significand exponent := by
  simp only [ofFloat, (isFinite_iff number).mp finite, if_false]
  split <;> exact ⟨_, _, _, rfl⟩

theorem ofFloat_of_not_isFinite {number : Float}
    (special : number.isFinite = false) :
    ofFloat number = .notANumber ∨
      ∃ negative, ofFloat number = .infinite negative := by
  have greatest : number.toBits.toNat / leadingBit % 2048 = 2047 := by
    by_contra less
    simp [(isFinite_iff number).mpr less] at special
  simp only [ofFloat, greatest, if_true]
  split
  · exact .inr ⟨_, rfl⟩
  · exact .inl rfl

end Binary

namespace Numeral

/-- The character continues a numeral. -/
def continues (character : Char) : Bool :=
  Decimal.isDigit character || character == '.' || character == 'e' ||
    character == 'E'

/-- Nothing at the beginning of a text belongs to a numeral in front of it. -/
abbrev Ends (rest : Text) : Prop := rest.Stops continues

/-- Digits as they stand in front of the point. -/
structure IsWhole (whole : Text) : Prop where
  digits : ∀ character ∈ whole, Decimal.isDigit character = true
  ne_nil : whole ≠ []
  minimal : whole = ['0'] ∨ whole.head? ≠ some '0'

/-- Digits as they stand behind the point. -/
structure IsFraction (fraction : Text) : Prop where
  digits : ∀ character ∈ fraction, Decimal.isDigit character = true
  ne_nil : fraction ≠ []

variable {text whole fraction rest : Text} {numeral : Numeral}

theorem span_digits
    (digits : ∀ character ∈ text, Decimal.isDigit character = true)
    (stops : rest.Stops Decimal.isDigit) :
    (text ++ rest).span Decimal.isDigit = (text, rest) := by
  rw [List.span_eq_takeWhile_dropWhile,
    Text.takeWhile_append_of_stops digits stops,
    Text.dropWhile_append_of_stops digits stops]

theorem Ends.stops_digit (ends : Ends rest) : rest.Stops Decimal.isDigit :=
  fun character first => by
    have stopped := ends character first
    simp only [continues, Bool.or_eq_false_iff] at stopped
    exact stopped.1.1.1

/-- The sign in front of a numeral. -/
def sign (negative : Bool) : Text :=
  if negative then ['-'] else []

theorem readWhole_append (negative : Bool) (isWhole : IsWhole whole)
    (stops : rest.Stops Decimal.isDigit) :
    readWhole (sign negative ++ (whole ++ rest)) =
      some (⟨negative, whole, [], 0, false⟩, rest) := by
  have taken := span_digits isWhole.digits stops
  cases whole with
  | nil => exact absurd rfl isWhole.ne_nil
  | cons first whole =>
      have noSign : first ≠ '-' := by
        rintro rfl
        exact absurd (isWhole.digits '-' List.mem_cons_self) (by decide)
      have minimal := isWhole.minimal
      clear isWhole
      cases negative with
      | true =>
          simp only [readWhole, sign, if_true, List.singleton_append, taken]
          split
          · contradiction
          · next needless => simp [needless] at minimal
          · rfl
      | false =>
          rw [List.cons_append] at taken
          simp only [readWhole, sign, Bool.false_eq_true, if_false,
            List.nil_append, List.cons_append, List.cons.injEq, noSign,
            false_and, imp_false, not_false_eq_true, implies_true, taken]
          split
          · contradiction
          · next needless => simp [needless] at minimal
          · rfl

theorem readFraction_append (isFraction : IsFraction fraction)
    (stops : rest.Stops Decimal.isDigit) :
    numeral.readFraction ('.' :: (fraction ++ rest)) =
      some ({ numeral with fraction, isFloating := true }, rest) := by
  simp [readFraction, span_digits isFraction.digits stops, isFraction.ne_nil,
    -List.span_eq_takeWhile_dropWhile]

theorem readFraction_of_ne (stops : rest.Stops (· == '.')) :
    numeral.readFraction rest = some (numeral, rest) := by
  unfold readFraction
  split
  · simp at stops
  · rfl

theorem readPower_of_ends (ends : Ends rest) :
    numeral.readPower rest = some (numeral, rest) := by
  cases rest with
  | nil => rfl
  | cons letter rest =>
      simp only [Text.stops_cons_iff, continues, Bool.or_eq_false_iff,
        beq_eq_false_iff_ne] at ends
      simp [readPower, ends.1.2, ends.2]

/-- The text in front of the digits of a power of ten. -/
def powerMark (negative : Bool) : Text :=
  ['e', if negative then '-' else '+']

theorem readPower_append (negative : Bool) (number : Nat) (ends : Ends rest) :
    numeral.readPower
        (powerMark negative ++ (Decimal.digits number ++ rest)) =
      some ({ numeral with
        power := if negative then -number else number
        isFloating := true }, rest) := by
  have taken : (Decimal.digits number ++ rest).span Decimal.isDigit =
      (Decimal.digits number, rest) :=
    span_digits (fun _ => Decimal.isDigit_of_mem_digits) ends.stops_digit
  cases negative <;>
    simp [readPower, powerMark, taken, Decimal.digits_ne_nil,
      Decimal.ofDigits_digits, -List.span_eq_takeWhile_dropWhile]

/-- A text is read as a numeral wherever the numeral can end. -/
def Reads (text : Text) (numeral : Numeral) : Prop :=
  ∀ rest, Ends rest → read? (text ++ rest) = some (numeral, rest)

theorem reads_whole (negative : Bool) (isWhole : IsWhole whole) :
    Reads (sign negative ++ whole) ⟨negative, whole, [], 0, false⟩ := by
  intro rest ends
  have noPoint : rest.Stops (· == '.') :=
    ends.mono fun character point => by simp_all [continues]
  rw [List.append_assoc, read?, readWhole_append negative isWhole
    ends.stops_digit]
  simp only [Option.bind_eq_bind, Option.bind_some]
  rw [readFraction_of_ne noPoint]
  exact readPower_of_ends ends

theorem reads_point (negative : Bool) (isWhole : IsWhole whole)
    (isFraction : IsFraction fraction) :
    Reads (sign negative ++ (whole ++ '.' :: fraction))
      ⟨negative, whole, fraction, 0, true⟩ := by
  intro rest ends
  have pointStops : Text.Stops Decimal.isDigit ('.' :: (fraction ++ rest)) :=
    Text.stops_cons_iff.mpr (by decide)
  rw [List.append_assoc, List.append_assoc, List.cons_append, read?,
    readWhole_append negative isWhole pointStops]
  simp only [Option.bind_eq_bind, Option.bind_some]
  rw [readFraction_append isFraction ends.stops_digit]
  exact readPower_of_ends ends

theorem reads_power (negative small : Bool) (number : Nat)
    (isWhole : IsWhole whole) :
    Reads (sign negative ++
        (whole ++ (powerMark small ++ Decimal.digits number)))
      ⟨negative, whole, [], if small then -number else number, true⟩ := by
  intro rest ends
  simp only [List.append_assoc]
  have markStops (test : Char → Bool) (fails : test 'e' = false) :
      Text.Stops test
        (powerMark small ++ (Decimal.digits number ++ rest)) :=
    Text.stops_cons_iff.mpr fails
  rw [read?, readWhole_append negative isWhole (markStops _ (by decide))]
  simp only [Option.bind_eq_bind, Option.bind_some]
  rw [readFraction_of_ne (markStops _ (by decide))]
  exact readPower_append small number ends

theorem reads_point_power (negative small : Bool) (number : Nat)
    (isWhole : IsWhole whole) (isFraction : IsFraction fraction) :
    Reads (sign negative ++ (whole ++ '.' :: (fraction ++
        (powerMark small ++ Decimal.digits number))))
      ⟨negative, whole, fraction, if small then -number else number,
        true⟩ := by
  intro rest ends
  simp only [List.append_assoc, List.cons_append]
  have markStops : Text.Stops Decimal.isDigit
      (powerMark small ++ (Decimal.digits number ++ rest)) :=
    Text.stops_cons_iff.mpr (by decide)
  rw [read?, readWhole_append negative isWhole
    (Text.stops_cons_iff.mpr (by decide))]
  simp only [Option.bind_eq_bind, Option.bind_some]
  rw [readFraction_append isFraction markStops]
  exact readPower_append small number ends

theorem isWhole_digits (number : Nat) : IsWhole (Decimal.digits number) where
  digits := fun _ => Decimal.isDigit_of_mem_digits
  ne_nil := Decimal.digits_ne_nil number
  minimal := by
    by_cases zero : number = 0
    · exact .inl (zero ▸ rfl)
    · exact .inr (Decimal.head?_digits_ne_zero zero)

/-- Some floating-point numeral is read from a text, with or without a sign in
front. -/
def IsFloating (text : Text) : Prop :=
  ∀ negative, ∃ numeral : Numeral,
    numeral.isFloating = true ∧ Reads (sign negative ++ text) numeral

theorem isDigit_of_mem_zeros {count : Nat} {character : Char}
    (member : character ∈ List.replicate count '0') :
    Decimal.isDigit character = true := by
  rw [List.eq_of_mem_replicate member]
  decide

theorem isFloating_point (isWhole : IsWhole whole)
    (isFraction : IsFraction fraction) :
    IsFloating (whole ++ '.' :: fraction) :=
  fun negative => ⟨_, rfl, reads_point negative isWhole isFraction⟩

theorem isWhole_zero : IsWhole ['0'] :=
  ⟨List.forall_mem_singleton.mpr (by decide), List.cons_ne_nil _ _, .inl rfl⟩

theorem isFraction_zero : IsFraction ['0'] :=
  ⟨List.forall_mem_singleton.mpr (by decide), List.cons_ne_nil _ _⟩

/-- Digits with the point behind them, among them or in front of them. -/
theorem isFloating_positional {accepted : Int → Bool} {exponent : Int}
    (isWhole : IsWhole whole) (noZero : whole.head? ≠ some '0') :
    IsFloating (Decimal.positional ⟨['.', '0'], accepted⟩ whole exponent) := by
  unfold Decimal.positional
  split
  · refine isFloating_point ⟨fun character member => ?_, ?_, .inr ?_⟩
      isFraction_zero
    · rcases List.mem_append.mp member with member | member
      · exact isWhole.digits character member
      · exact isDigit_of_mem_zeros member
    · exact List.append_ne_nil_of_left_ne_nil isWhole.ne_nil _
    · rwa [List.head?_append_of_ne_nil _ isWhole.ne_nil]
  · next below =>
      simp only
      split
      · next within =>
          have kept : 0 < whole.length - exponent.natAbs := by omega
          refine isFloating_point ⟨fun character member => ?_, ?_, .inr ?_⟩
            ⟨fun character member => ?_, ?_⟩
          · exact isWhole.digits character (List.mem_of_mem_take member)
          · rw [Ne, List.take_eq_nil_iff, not_or]
            exact ⟨by omega, isWhole.ne_nil⟩
          · rwa [List.head?_take, if_neg (by omega)]
          · exact isWhole.digits character (List.mem_of_mem_drop member)
          · rw [Ne, List.drop_eq_nil_iff]
            omega
      · change IsFloating (['0'] ++ '.' :: (_ ++ whole))
        refine isFloating_point isWhole_zero ⟨fun character member => ?_, ?_⟩
        · rcases List.mem_append.mp member with member | member
          · exact isDigit_of_mem_zeros member
          · exact isWhole.digits character member
        · exact List.append_ne_nil_of_right_ne_nil _ isWhole.ne_nil

/-- Digits with a power of ten behind them. -/
theorem isFloating_scientific {power : Int} (isWhole : IsWhole whole)
    (noZero : whole.head? ≠ some '0') :
    IsFloating (Decimal.scientific whole power) := by
  intro negative
  cases whole with
  | nil => exact absurd rfl isWhole.ne_nil
  | cons first others =>
      obtain ⟨firstDigit, othersDigits⟩ :=
        List.forall_mem_cons.mp isWhole.digits
      have firstWhole : IsWhole [first] :=
        ⟨List.forall_mem_singleton.mpr firstDigit, List.cons_ne_nil _ _,
          .inr noZero⟩
      cases others with
      | nil =>
          have shape : Decimal.scientific [first] power = [first] ++
              (powerMark (power < 0) ++ Decimal.digits power.natAbs) := by
            simp [Decimal.scientific, powerMark]
          rw [shape]
          exact ⟨_, rfl, reads_power negative _ _ firstWhole⟩
      | cons second others =>
          have shape : Decimal.scientific (first :: second :: others) power =
              [first] ++ '.' :: (second :: others ++
                (powerMark (power < 0) ++ Decimal.digits power.natAbs)) := by
            simp [Decimal.scientific, powerMark]
          rw [shape]
          exact ⟨_, rfl, reads_point_power negative _ _ firstWhole
            ⟨othersDigits, List.cons_ne_nil _ _⟩⟩

theorem exists_reads_toText (decimal : Decimal) :
    ∃ numeral : Numeral, numeral.isFloating = true ∧
      Reads (decimal.toText Json.numberFormat.layout) numeral := by
  have signed (body : Text) :
      (if decimal.negative then '-' :: body else body) =
        sign decimal.negative ++ body := by
    cases decimal.negative <;> rfl
  simp only [Decimal.toText]
  rw [signed]
  split
  · have zero : IsFloating (['0'] ++ '.' :: ['0']) :=
      isFloating_point isWhole_zero isFraction_zero
    exact zero decimal.negative
  · next neZero =>
      have isWhole := isWhole_digits decimal.coefficient
      have noZero := Decimal.head?_digits_ne_zero neZero
      split
      · exact isFloating_positional isWhole noZero decimal.negative
      · exact isFloating_scientific isWhole noZero decimal.negative

end Numeral

namespace Json

open Numeral

variable {rest : Text} {number : Float}

/-- An integer of at most 64 bits. -/
def FitsWord (value : Int) : Prop :=
  Int64.minValue.toInt ≤ value ∧ value < UInt64.size

theorem readNumber_integer {value : Int} (fits : FitsWord value)
    (ends : Ends rest) :
    readNumber (integerText value ++ rest) =
      (.number (.integer value), some rest) := by
  have textEq : integerText value =
      sign (value < 0) ++ Decimal.digits value.natAbs := by
    unfold integerText sign
    split <;> simp_all
  have read := reads_whole (value < 0) (isWhole_digits value.natAbs) rest ends
  have signed : (if value < 0 then -(value.natAbs : Int) else value.natAbs) =
      value := by
    split <;> omega
  rw [readNumber, textEq, read]
  have notMinusZero :
      (decide (value < 0) && (value.natAbs : Int) == 0) = false := by
    simp only [Bool.and_eq_false_iff, decide_eq_false_iff_not,
      beq_eq_false_iff_ne]
    omega
  simp only [numberValue, Decimal.ofDigits_digits, decide_eq_true_eq, signed,
    notMinusZero]
  rw [if_pos (by simpa [FitsWord] using fits)]

/-- What is written for a finite number is read as some number, whatever ends
it. -/
theorem exists_reads_write (finite : number.isFinite = true) :
    ∃ numeral : Numeral, numeral.isFloating = true ∧
      Reads (numberFormat.write number) numeral := by
  obtain ⟨negative, significand, exponent, parts⟩ :=
    Binary.ofFloat_of_isFinite finite
  rw [NumberFormat.write, parts]
  exact exists_reads_toText _

theorem write_of_not_isFinite (special : number.isFinite = false) :
    numberFormat.write number = ['n', 'u', 'l', 'l'] := by
  rw [NumberFormat.write]
  rcases Binary.ofFloat_of_not_isFinite special with parts | ⟨negative, parts⟩
  · rw [parts]
    rfl
  · rw [parts]
    rfl

/-- The shortest digits of a number are read as that number. -/
def ReadsBack (number : Float) : Prop :=
  ∀ numeral, Numeral.read? (numberFormat.write number) = some (numeral, []) →
    numeral.scaled? = some number

theorem readsBack_of_scaled {numeral : Numeral}
    (read : Numeral.read? (numberFormat.write number) = some (numeral, []))
    (scaled : numeral.scaled? = some number) : ReadsBack number := by
  intro other otherRead
  rw [read] at otherRead
  cases otherRead
  exact scaled

/-- What is read where a floating-point number was written. -/
def readBack (number : Float) : Value :=
  if number.isFinite then (readNumber (numberFormat.write number)).1
  else .null

theorem readNumber_floating (finite : number.isFinite = true)
    (ends : Ends rest) :
    readNumber (numberFormat.write number ++ rest) =
      (readBack number, some rest) := by
  obtain ⟨numeral, -, read⟩ := exists_reads_write finite
  have alone := read [] (Text.stops_nil _)
  rw [List.append_nil] at alone
  simp only [readBack, finite, if_true, readNumber, read rest ends, alone]

theorem readBack_of_readsBack (finite : number.isFinite = true)
    (back : ReadsBack number) : readBack number = .float number := by
  obtain ⟨numeral, floating, read⟩ := exists_reads_write finite
  have alone := read [] (Text.stops_nil _)
  rw [List.append_nil] at alone
  simp [readBack, finite, readNumber, alone, numberValue, floating,
    back numeral alone, Value.float]

theorem readBack_of_not_isFinite (special : number.isFinite = false) :
    readBack number = .null := by
  simp [readBack, special]

/-- The fast reading of numerals misses some numbers. -/
example : ¬ ReadsBack 5.8e93 := by
  intro back
  have read : Numeral.read? (numberFormat.write 5.8e93) =
      some (⟨false, ['5'], ['8'], 93, true⟩, []) := by decide +kernel
  exact absurd (back _ read) (by decide +kernel)

end Json

end TurtleSystems
