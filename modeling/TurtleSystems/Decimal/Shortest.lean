import TurtleSystems.Decimal

/-!
# Shortest digits

A finite double-precision number is `significand * 2 ^ exponent`.  The reals
that round to it form an interval, whose ends belong to it when the
significand is even.  The shortest decimal is found on the coarsest power of
ten with a multiple in that interval; of two such multiples the nearer one is
taken.  All comparisons are exact.
-/

namespace TurtleSystems

/-- A double-precision number taken apart. -/
inductive Binary where
  | notANumber
  | infinite (negative : Bool)
  | finite (negative : Bool) (significand : Nat) (exponent : Int)
  deriving DecidableEq, Repr

namespace Binary

/-- The leading bit of a significand.  It is stored only through the exponent,
which tells whether it is set. -/
def leadingBit : Nat := 0x10000000000000

/-- The parts of a double-precision number, read off its bits. -/
def ofFloat (number : Float) : Binary :=
  let bits : Nat := number.toBits.toNat
  let negative := bits.testBit 63
  let biased := bits / leadingBit % 2048
  let fraction := bits % leadingBit
  if biased = 2047 then
    if fraction = 0 then infinite negative else notANumber
  else if biased = 0 then finite negative fraction (-1074)
  else finite negative (fraction + leadingBit) ((biased : Int) - 1075)

end Binary

namespace Decimal

/-- Which of two equally near decimals is taken. -/
inductive Tie where
  | upward
  | even
  deriving DecidableEq, Repr

/-- A positive number as a fraction, with the distances within which others
round to it.  All four share the unit of `value`; `inclusive` tells whether
the ends count. -/
structure RoundingInterval where
  value : Nat
  unit : Nat
  below : Nat
  above : Nat
  inclusive : Bool

namespace RoundingInterval

/-- The interval of a significand that is not zero and an exponent.  It is
narrower below a power of two, where the numbers start to lie closer. -/
def ofParts (significand : Nat) (exponent : Int) : RoundingInterval :=
  let quarter := exponent - 2
  let scale := Nat.pow 2 quarter.toNat
  let narrow := significand = Binary.leadingBit ∧ -1074 < exponent
  { value := 4 * significand * scale
    unit := Nat.pow 2 (-quarter).toNat
    below := (if narrow then 1 else 2) * scale
    above := 2 * scale
    inclusive := significand % 2 = 0 }

/-- Whether a distance is within a bound of the interval. -/
def reaches (interval : RoundingInterval) (distance bound : Nat) : Bool :=
  distance < bound || (interval.inclusive && distance == bound)

/-- Measure the interval in units of `10 ^ exponent`. -/
def rescale (interval : RoundingInterval) (exponent : Int) :
    RoundingInterval :=
  let up := Nat.pow 10 (-exponent).toNat
  { interval with
    value := interval.value * up
    unit := interval.unit * Nat.pow 10 exponent.toNat
    below := interval.below * up
    above := interval.above * up }

/-- The nearest multiple of the unit that lies in the interval. -/
def nearest? (interval : RoundingInterval) (tie : Tie) : Option Nat :=
  let lower := interval.value / interval.unit
  let past := interval.value % interval.unit
  let missing := interval.unit - past
  match interval.reaches past interval.below,
      interval.reaches missing interval.above with
  | false, false => none
  | true, false => some lower
  | false, true => some (lower + 1)
  | true, true =>
    if past < missing then some lower
    else if missing < past then some (lower + 1)
    else
      match tie with
      | .upward => some (lower + 1)
      | .even => some (lower + lower % 2)

/-- The number of digits in front of the point; for a number below one, minus
the number of zeros behind it. -/
def wholeDigits (interval : RoundingInterval) : Int :=
  let binary : Int :=
    (Nat.log2 interval.value : Int) - (Nat.log2 interval.unit : Int)
  let guess := Int.fdiv ((binary - 1) * 30103) 100000
  let reachesPower (exponent : Int) : Bool :=
    let scaled := interval.rescale exponent
    scaled.unit ≤ scaled.value
  if reachesPower (guess + 1) then guess + 2
  else if reachesPower guess then guess + 1
  else guess

/-- The coarsest of the next `steps` powers of ten, from `exponent` downwards,
with a multiple in the interval. -/
def search (interval : RoundingInterval) (tie : Tie) :
    (steps : Nat) → (exponent : Int) → Nat × Int
  | 0, exponent =>
    let scaled := interval.rescale exponent
    (scaled.value / scaled.unit, exponent)
  | steps + 1, exponent =>
    match (interval.rescale exponent).nearest? tie with
    | some multiple => (multiple, exponent)
    | none => search interval tie steps (exponent - 1)

end RoundingInterval

/-- Drop the zeros at the end of a coefficient, at most `steps` of them. -/
def dropZeros : (steps coefficient : Nat) → (exponent : Int) → Nat × Int
  | 0, coefficient, exponent => (coefficient, exponent)
  | steps + 1, coefficient, exponent =>
    if coefficient % 10 = 0 ∧ coefficient ≠ 0 then
      dropZeros steps (coefficient / 10) (exponent + 1)
    else (coefficient, exponent)

/-- The shortest decimal that reads back as the number with the given parts.
Seventeen digits always suffice. -/
def shortest (tie : Tie) (negative : Bool) (significand : Nat)
    (exponent : Int) : Decimal :=
  if significand = 0 then ⟨negative, 0, 0⟩
  else
    let interval := RoundingInterval.ofParts significand exponent
    let found := interval.search tie 17 (interval.wholeDigits - 1)
    let (coefficient, power) := dropZeros 17 found.1 found.2
    ⟨negative, coefficient, power⟩

end Decimal

/-- How floating-point numbers are written. -/
structure NumberFormat where
  tie : Decimal.Tie
  layout : Decimal.Layout
  notANumber : Text
  infinite : (negative : Bool) → Text

namespace NumberFormat

def write (format : NumberFormat) (number : Float) : Text :=
  match Binary.ofFloat number with
  | .notANumber => format.notANumber
  | .infinite negative => format.infinite negative
  | .finite negative significand exponent =>
    (Decimal.shortest format.tie negative significand exponent).toText
      format.layout

/-- Numbers in drawings and on the screen: never with an exponent, whole
numbers without a point, and the larger of two equally near decimals. -/
def plain : NumberFormat where
  tie := .upward
  layout := ⟨[], fun _ => true⟩
  notANumber := ['N', 'a', 'N']
  infinite := fun negative =>
    if negative then ['-', 'i', 'n', 'f'] else ['i', 'n', 'f']

end NumberFormat

end TurtleSystems
