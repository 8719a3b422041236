import TurtleSystems.Proofs.Decimal.Interval
import TurtleSystems.Proofs.Decimal.Plain

/-!
# Shortest digits tell numbers apart

The parts of a double-precision number hold all its bits.  The shortest digits
of different parts are decimals of different size, and without an exponent the
size can be read off the text.  So a number in a drawing is told by how it is
written, the sign of zero included.
-/

namespace TurtleSystems

namespace Binary

/-- The bit in front of all others tells the sign. -/
def signBit (negative : Bool) : Nat :=
  if negative then 0x8000000000000000 else 0

/-- The bits of a double-precision number, put together from its parts.  All
that is not a number is one and the same. -/
def bits : Binary → Nat
  | notANumber => 0x7ff8000000000000
  | infinite negative => signBit negative + 2047 * leadingBit
  | finite negative significand exponent =>
    signBit negative +
      if significand < leadingBit then significand
      else (exponent + 1075).toNat * leadingBit + (significand - leadingBit)

theorem signBit_testBit {number : Nat} (numberLt : number < 2 ^ 64) :
    signBit (number.testBit 63) = number / 2 ^ 63 * 2 ^ 63 := by
  rw [Nat.testBit_eq_decide_div_mod_eq, signBit]
  split <;> simp_all <;> omega

open Float.Model in
theorem toBits_of_notANumber {number : Float}
    (exponentEq : number.toBits.toNat / leadingBit % 2048 = 2047)
    (fractionNeZero : number.toBits.toNat % leadingBit ≠ 0) :
    number.toBits.toNat = 0x7ff8000000000000 := by
  have greatest : @UnpackedFloat.unpackExponent Format.binary64
      number.toModel.toBits.toBitVec = -1#_ :=
    BitVec.eq_of_toNat_eq ((toNat_unpackExponent number).trans exponentEq)
  have mantissaEq : (@UnpackedFloat.unpackMantissa Format.binary64
      number.toModel.toBits.toBitVec).toNat =
        number.toBits.toNat % leadingBit := by
    simp only [UnpackedFloat.unpackMantissa, BitVec.toNat_cast,
      BitVec.extractLsb_toNat, Nat.shiftRight_zero]
    rfl
  have mantissaNeZero : @UnpackedFloat.unpackMantissa Format.binary64
      number.toModel.toBits.toBitVec ≠ 0#_ := by
    intro zero
    rw [zero] at mantissaEq
    exact fractionNeZero mantissaEq.symm
  exact congrArg BitVec.toNat
    (number.toModel.valid.eq_packedNaN greatest mantissaNeZero)

/-- The bits of a number can be put together again from its parts. -/
theorem bits_ofFloat (number : Float) :
    (ofFloat number).bits = number.toBits.toNat := by
  have bitsLt : number.toBits.toNat < 2 ^ 64 := number.toBits.toNat_lt
  have sign := signBit_testBit bitsLt
  simp only [ofFloat]
  split
  · next greatest =>
      split
      · next zero =>
          simp only [bits, sign, leadingBit] at *
          omega
      · next neZero => exact (toBits_of_notANumber greatest neZero).symm
  split
  · next least =>
      rw [bits, sign, if_pos (Nat.mod_lt _ (by decide))]
      simp only [leadingBit] at *
      omega
  · next normal =>
      rw [bits, sign, if_neg (by omega)]
      simp only [leadingBit] at *
      omega

theorem ofFloat_injective : Function.Injective ofFloat := by
  intro first second same
  have sameBits : first.toBits.toNat = second.toBits.toNat := by
    rw [← bits_ofFloat, ← bits_ofFloat, same]
  obtain ⟨⟨firstBits, firstValid⟩⟩ := first
  obtain ⟨⟨secondBits, secondValid⟩⟩ := second
  obtain rfl : firstBits = secondBits := UInt64.toNat_inj.mp sameBits
  rfl

theorem isCanonical_of_ofFloat_eq {number : Float} {negative : Bool}
    {significand : Nat} {exponent : Int}
    (parts : ofFloat number = .finite negative significand exponent) :
    significand = 0 ∧ exponent = -1074 ∨ IsCanonical significand exponent := by
  have fractionLt : number.toBits.toNat % leadingBit < leadingBit :=
    Nat.mod_lt _ (by decide)
  simp only [ofFloat] at parts
  split at parts
  · split at parts <;> cases parts
  split at parts
  · cases parts
    by_cases zero : number.toBits.toNat % leadingBit = 0
    · exact .inl ⟨zero, rfl⟩
    · exact .inr ⟨by omega, by omega, by omega, by omega, .inl rfl⟩
  · cases parts
    exact .inr ⟨by omega, by omega, by omega, by omega, .inr (by omega)⟩

end Binary

namespace Decimal

open Binary (IsCanonical)

variable {significand other : Nat} {exponent otherExponent : Int}
variable {tie : Tie} {negative otherNegative : Bool}

section Sizes

theorem dropZeros_size (steps coefficient : Nat) (exponent : Int) :
    ((dropZeros steps coefficient exponent).1 : ℚ) *
        10 ^ (dropZeros steps coefficient exponent).2 =
      coefficient * 10 ^ exponent := by
  induction steps generalizing coefficient exponent with
  | zero => rfl
  | succ steps ih =>
      unfold dropZeros
      split
      · next zeros =>
          obtain ⟨tenth, rfl⟩ := Nat.dvd_of_mod_eq_zero zeros.1
          rw [Nat.mul_div_cancel_left tenth (by decide), ih,
            zpow_add_one₀ (by norm_num)]
          push_cast
          ring
      · rfl

theorem negative_shortest (tie : Tie) (negative : Bool) (significand : Nat)
    (exponent : Int) :
    (shortest tie negative significand exponent).negative = negative := by
  unfold shortest
  split <;> rfl

/-- The shortest digits of a number round to it. -/
theorem contains_size_shortest (tie : Tie) (negative : Bool)
    (canonical : IsCanonical significand exponent) :
    (RoundingInterval.ofParts significand exponent).Contains
      (shortest tie negative significand exponent).size := by
  have proper := RoundingInterval.isProper_ofParts significand exponent
  have valueNeZero :
      (RoundingInterval.ofParts significand exponent).value ≠ 0 :=
    (Nat.mul_pos (Nat.mul_pos (by decide) canonical.significand_pos)
      (Nat.pow_pos (by decide))).ne'
  have reaches := RoundingInterval.reachesPower_wholeDigits valueNeZero
    (RoundingInterval.log2_value_lt canonical)
    (RoundingInterval.log2_unit_lt canonical)
  have found := RoundingInterval.contains_search tie proper
    (by decide : 16 < 17)
    (reaches.short_rescale (RoundingInterval.value_lt canonical))
  rw [shortest, if_neg canonical.significand_pos.ne', size]
  rwa [← dropZeros_size 17] at found

theorem size_shortest_pos (canonical : IsCanonical significand exponent) :
    0 < (shortest tie negative significand exponent).size :=
  (contains_size_shortest tie negative canonical).pos
    canonical.significand_pos

theorem size_shortest_zero (tie : Tie) (negative : Bool) (exponent : Int) :
    (shortest tie negative 0 exponent).size = 0 := by
  simp [shortest, size]

/-- The shortest digits of different numbers are different decimals. -/
theorem eq_of_size_shortest_eq
    (parts : significand = 0 ∧ exponent = -1074 ∨
      IsCanonical significand exponent)
    (otherParts : other = 0 ∧ otherExponent = -1074 ∨
      IsCanonical other otherExponent)
    (same : (shortest tie negative significand exponent).size =
      (shortest tie otherNegative other otherExponent).size) :
    significand = other ∧ exponent = otherExponent := by
  rcases parts with ⟨rfl, rfl⟩ | canonical <;>
    rcases otherParts with ⟨rfl, rfl⟩ | canonicalOther
  · exact ⟨rfl, rfl⟩
  · rw [size_shortest_zero] at same
    exact absurd same (size_shortest_pos canonicalOther).ne
  · rw [size_shortest_zero] at same
    exact absurd same (size_shortest_pos canonical).ne'
  · have contains := contains_size_shortest tie negative canonical
    have containsOther :=
      contains_size_shortest tie otherNegative canonicalOther
    rw [← same] at containsOther
    exact contains.unique containsOther canonical canonicalOther

end Sizes

section Texts

/-- The size of a number that is written without an exponent: all its digits,
moved by as many places as stand behind the point. -/
def sizeOfText (text : Text) : ℚ :=
  ofDigits (text.filter isDigit) /
    10 ^ ((text.dropWhile (· != '.')).length - 1)

variable {layout : Layout} {shown whole fraction : Text}

theorem ofDigits_append_zeros (text : Text) (count : Nat) :
    ofDigits (text ++ List.replicate count '0') =
      10 ^ count * ofDigits text := by
  change Nat.ofDigitChars 10 _ 0 = _ * Nat.ofDigitChars 10 text 0
  rw [Nat.ofDigitChars_append, Nat.ofDigitChars_replicate_zero]

theorem ofDigits_zeros_append (count : Nat) (text : Text) :
    ofDigits (List.replicate count '0' ++ text) = ofDigits text := by
  change Nat.ofDigitChars 10 _ 0 = Nat.ofDigitChars 10 text 0
  rw [Nat.ofDigitChars_append, Nat.ofDigitChars_replicate_zero, Nat.mul_zero]

theorem ne_point_of_isDigit {character : Char}
    (digit : isDigit character = true) : (character != '.') = true := by
  rw [bne_iff_ne]
  rintro rfl
  cases digit

theorem sizeOfText_sign_append (negative : Bool) (text : Text) :
    sizeOfText (Numeral.sign negative ++ text) = sizeOfText text := by
  cases negative with
  | false => rfl
  | true =>
      change sizeOfText ('-' :: text) = _
      rw [sizeOfText, List.filter_cons_of_neg (by decide),
        List.dropWhile_cons_of_pos (by decide), sizeOfText]

theorem sizeOfText_digits
    (digits : ∀ character ∈ shown, isDigit character = true) :
    sizeOfText shown = ofDigits shown := by
  have noPoint : shown.dropWhile (· != '.') = [] :=
    List.dropWhile_eq_nil_iff.mpr fun character member =>
      ne_point_of_isDigit (digits character member)
  rw [sizeOfText, noPoint, List.filter_eq_self.mpr digits]
  simp

theorem sizeOfText_point
    (wholeDigits : ∀ character ∈ whole, isDigit character = true)
    (fractionDigits : ∀ character ∈ fraction, isDigit character = true) :
    sizeOfText (whole ++ '.' :: fraction) =
      ofDigits (whole ++ fraction) / 10 ^ fraction.length := by
  have behind : (whole ++ '.' :: fraction).dropWhile (· != '.') =
      '.' :: fraction :=
    Text.dropWhile_append_of_stops
      (fun character member =>
        ne_point_of_isDigit (wholeDigits character member))
      (Text.stops_cons_iff.mpr rfl)
  rw [sizeOfText, behind, List.filter_append,
    List.filter_cons_of_neg (by decide), List.filter_eq_self.mpr wholeDigits,
    List.filter_eq_self.mpr fractionDigits]
  rfl

/-- Digits with the point where a negative exponent puts it. -/
theorem sizeOfText_places
    (digits : ∀ character ∈ shown, isDigit character = true)
    {places : Nat} (placesPos : 0 < places) :
    sizeOfText (positional layout shown (-places)) =
      ofDigits shown / 10 ^ places := by
  rw [positional, if_neg (by omega)]
  simp only [Int.natAbs_neg, Int.natAbs_natCast]
  split
  · next within =>
      rw [sizeOfText_point
        (fun character member => digits character (List.mem_of_mem_take member))
        (fun character member => digits character (List.mem_of_mem_drop member)),
        List.take_append_drop, List.length_drop, Nat.sub_sub_self within.le]
  · next beyond =>
      have fractionDigits : ∀ character ∈
          List.replicate (places - shown.length) '0' ++ shown,
          isDigit character = true := by
        intro character member
        exact (List.mem_append.mp member).elim Numeral.isDigit_of_mem_zeros
          (digits character)
      have lengthEq : (List.replicate (places - shown.length) '0' ++
          shown).length = places := by
        rw [List.length_append, List.length_replicate]
        omega
      have point := sizeOfText_point Numeral.isWhole_zero.digits fractionDigits
      have firstZero (text : Text) : ofDigits (['0'] ++ text) = ofDigits text :=
        rfl
      rwa [lengthEq, firstZero, ofDigits_zeros_append] at point

/-- Digits with the point where an exponent puts it have the size of their
decimal. -/
theorem sizeOfText_positional (plain : layout.IsPlain)
    (digits : ∀ character ∈ shown, isDigit character = true)
    (exponent : Int) :
    sizeOfText (positional layout shown exponent) =
      ofDigits shown * 10 ^ exponent := by
  rcases Int.lt_or_le exponent 0 with negative | nonneg
  · obtain ⟨places, placesEq⟩ :=
      Int.eq_ofNat_of_zero_le (Int.neg_nonneg_of_nonpos negative.le)
    obtain rfl : exponent = -(places : Int) := by omega
    rw [sizeOfText_places digits (by omega), zpow_neg, zpow_natCast,
      div_eq_mul_inv]
  · obtain ⟨count, rfl⟩ := Int.eq_ofNat_of_zero_le nonneg
    have allDigits : ∀ character ∈ shown ++ List.replicate count '0',
        isDigit character = true := by
      intro character member
      exact (List.mem_append.mp member).elim (digits character)
        Numeral.isDigit_of_mem_zeros
    rw [positional, if_pos nonneg, plain.mark, List.append_nil, Int.toNat_natCast,
      sizeOfText_digits allDigits, ofDigits_append_zeros, zpow_natCast]
    push_cast
    exact mul_comm _ _

/-- The size of a decimal that is written without an exponent can be read off
its text. -/
theorem sizeOfText_toText (plain : layout.IsPlain) (decimal : Decimal) :
    sizeOfText (decimal.toText layout) = decimal.size := by
  rw [toText_eq_positional plain, sizeOfText_sign_append,
    sizeOfText_positional plain (fun _ => isDigit_of_mem_digits),
    ofDigits_digits, size]
  split
  · next zero => simp [zero]
  · rfl

theorem minus_mem_toText_iff (plain : layout.IsPlain) (decimal : Decimal) :
    '-' ∈ decimal.toText layout ↔ decimal.negative = true := by
  constructor
  · intro member
    rcases mem_toText_cases plain member with
      (digit | point) | ⟨negative, -⟩
    · cases digit
    · cases point
    · exact negative
  · intro negative
    rw [toText_eq_positional plain, negative]
    exact List.mem_append_left _ List.mem_cons_self

/-- The sign and the size of a decimal that is written tell the parts of the
number. -/
theorem eq_of_toText_shortest_eq (plain : layout.IsPlain)
    (parts : significand = 0 ∧ exponent = -1074 ∨
      IsCanonical significand exponent)
    (otherParts : other = 0 ∧ otherExponent = -1074 ∨
      IsCanonical other otherExponent)
    (same : (shortest tie negative significand exponent).toText layout =
      (shortest tie otherNegative other otherExponent).toText layout) :
    negative = otherNegative ∧ significand = other ∧
      exponent = otherExponent := by
  have minus := minus_mem_toText_iff plain
    (shortest tie negative significand exponent)
  have otherMinus := minus_mem_toText_iff plain
    (shortest tie otherNegative other otherExponent)
  have size := sizeOfText_toText plain
    (shortest tie negative significand exponent)
  have otherSize := sizeOfText_toText plain
    (shortest tie otherNegative other otherExponent)
  rw [negative_shortest] at minus otherMinus
  rw [same] at minus size
  exact ⟨Bool.eq_iff_iff.mpr (minus.symm.trans otherMinus),
    eq_of_size_shortest_eq parts otherParts (size.symm.trans otherSize)⟩

end Texts

end Decimal

namespace NumberFormat

/-- The words for what is not finite have a letter, and no decimal has one. -/
theorem ne_toText_of_mem {word : Text} (letter : 'N' ∈ word ∨ 'n' ∈ word)
    (decimal : Decimal) : word ≠ decimal.toText plain.layout := by
  rintro rfl
  rcases letter with member | member <;>
    rcases Decimal.mem_toText_cases isPlain_layout_plain member with
      (digit | point) | ⟨-, minus⟩
  · cases digit
  · cases point
  · cases minus
  · cases digit
  · cases point
  · cases minus

theorem mem_infinite (negative : Bool) : 'n' ∈ plain.infinite negative := by
  cases negative <;> decide

theorem infinite_ne_notANumber (negative : Bool) :
    plain.infinite negative ≠ plain.notANumber := by
  cases negative <;> decide

theorem infinite_injective : Function.Injective plain.infinite := by
  intro negative other same
  cases negative <;> cases other <;> simp_all [plain]

/-- Numbers that are written alike in a drawing are the same. -/
theorem write_plain_injective : Function.Injective plain.write := by
  intro first second same
  refine Binary.ofFloat_injective ?_
  unfold write at same
  split at same <;> split at same
  · next parts _ otherParts => rw [parts, otherParts]
  · next => exact absurd same.symm (infinite_ne_notANumber _)
  · next => exact absurd same (ne_toText_of_mem (.inl List.mem_cons_self) _)
  · next => exact absurd same (infinite_ne_notANumber _)
  · next parts _ _ otherParts =>
      rw [parts, otherParts, infinite_injective same]
  · next => exact absurd same (ne_toText_of_mem (.inr (mem_infinite _)) _)
  · next =>
      exact absurd same.symm (ne_toText_of_mem (.inl List.mem_cons_self) _)
  · next =>
      exact absurd same.symm (ne_toText_of_mem (.inr (mem_infinite _)) _)
  · next parts _ _ _ _ otherParts =>
      obtain ⟨rfl, rfl, rfl⟩ := Decimal.eq_of_toText_shortest_eq
        isPlain_layout_plain (Binary.isCanonical_of_ofFloat_eq parts)
        (Binary.isCanonical_of_ofFloat_eq otherParts) same
      rw [parts, otherParts]

end NumberFormat

end TurtleSystems
