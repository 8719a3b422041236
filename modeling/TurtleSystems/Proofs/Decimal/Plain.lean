import TurtleSystems.Proofs.Json.Numbers

/-!
# The characters of a plain number

A number in a drawing is written with digits, a point and a sign, or it is one
of the words for what is not finite.  So it holds no letter of a path command,
no space and nothing that could end an attribute.
-/

namespace TurtleSystems

/-- The characters that a plain number is made of. -/
def Decimal.isPlain (character : Char) : Bool :=
  isDigit character || ['-', '.', 'N', 'a', 'i', 'n', 'f'].contains character

namespace Decimal

/-- Numbers are written without an exponent, and whole ones without a
point. -/
structure Layout.IsPlain (layout : Layout) : Prop where
  always : ∀ power, layout.isPositional power = true
  mark : layout.wholeMark = []

variable {layout : Layout} {shown : Text} {exponent : Int} {character : Char}

/-- Digits with the point behind them, among them or in front of them. -/
theorem isDigit_or_point_of_mem_positional
    (digits : ∀ character ∈ shown, isDigit character = true)
    (plain : layout.IsPlain)
    (member : character ∈ positional layout shown exponent) :
    isDigit character = true ∨ character = '.' := by
  have zeroDigit : isDigit '0' = true := rfl
  unfold positional at member
  split at member
  · simp only [plain.mark, List.append_nil, List.mem_append, List.mem_replicate]
      at member
    rcases member with shown | ⟨-, rfl⟩
    · exact .inl (digits _ shown)
    · exact .inl zeroDigit
  · simp only [] at member
    split at member
    · simp only [List.mem_append, List.mem_cons] at member
      rcases member with whole | rfl | fraction
      · exact .inl (digits _ (List.mem_of_mem_take whole))
      · exact .inr rfl
      · exact .inl (digits _ (List.mem_of_mem_drop fraction))
    · simp only [List.mem_append, List.mem_cons, List.mem_replicate] at member
      rcases member with rfl | rfl | ⟨-, rfl⟩ | shown
      · exact .inl zeroDigit
      · exact .inr rfl
      · exact .inl zeroDigit
      · exact .inl (digits _ shown)

/-- Without an exponent a decimal is its digits behind its sign. -/
theorem toText_eq_positional (plain : layout.IsPlain) (decimal : Decimal) :
    decimal.toText layout = Numeral.sign decimal.negative ++
      positional layout (digits decimal.coefficient)
        (if decimal.coefficient = 0 then 0 else decimal.exponent) := by
  obtain ⟨negative, coefficient, exponent⟩ := decimal
  by_cases zero : coefficient = 0
  · have zeroDigits : digits 0 = ['0'] := by decide
    subst zero
    cases negative <;> simp [toText, zeroDigits, Numeral.sign]
  · cases negative <;> simp [toText, plain.always, zero, Numeral.sign]

theorem mem_toText_cases {decimal : Decimal} (plain : layout.IsPlain)
    (member : character ∈ decimal.toText layout) :
    (isDigit character = true ∨ character = '.') ∨
      decimal.negative = true ∧ character = '-' := by
  rw [toText_eq_positional plain, List.mem_append] at member
  rcases member with sign | body
  · cases negative : decimal.negative with
    | false => simp [negative, Numeral.sign] at sign
    | true => exact .inr ⟨rfl, by simpa [negative, Numeral.sign] using sign⟩
  · exact .inl (isDigit_or_point_of_mem_positional
      (fun _ => isDigit_of_mem_digits) plain body)

end Decimal

theorem NumberFormat.isPlain_layout_plain : plain.layout.IsPlain :=
  ⟨fun _ => rfl, rfl⟩

/-- Every character of a number in a drawing is one of those. -/
theorem NumberFormat.isPlain_of_mem_write {number : Float} {character : Char}
    (member : character ∈ plain.write number) :
    Decimal.isPlain character = true := by
  unfold write at member
  split at member
  · have allPlain : plain.notANumber.all Decimal.isPlain = true := rfl
    exact List.all_eq_true.mp allPlain character member
  · next negative _ =>
      have allPlain :
          (plain.infinite negative).all Decimal.isPlain = true := by
        cases negative <;> rfl
      exact List.all_eq_true.mp allPlain character member
  · rcases Decimal.mem_toText_cases isPlain_layout_plain member with
      (digit | rfl) | ⟨-, rfl⟩
    · simp [Decimal.isPlain, digit]
    · rfl
    · rfl

end TurtleSystems
