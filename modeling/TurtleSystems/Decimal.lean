import TurtleSystems.Text

/-!
# Decimal numbers

A decimal is a natural coefficient times a power of ten.  This file turns
decimals into floating-point numbers and lays their digits out.
-/

namespace TurtleSystems

/-- The number `coefficient * 10 ^ exponent`, negated if `negative`. -/
structure Decimal where
  negative : Bool
  coefficient : Nat
  exponent : Int
  deriving DecidableEq, Repr

namespace Decimal

/-- The decimal digits of a natural number, without leading zeros. -/
def digits (number : Nat) : Text :=
  Nat.toDigits 10 number

/-- Whether a character is one of the ten digits. -/
def isDigit (character : Char) : Bool :=
  '0' ≤ character && character ≤ '9'

/-- The number that a row of digits stands for. -/
def ofDigits (text : Text) : Nat :=
  text.foldl
    (fun number digit => 10 * number + (digit.toNat - '0'.toNat)) 0

/-- A bound on the size of a decimal: it is less than ten to the power of its
magnitude. -/
def magnitude (decimal : Decimal) : Int :=
  decimal.exponent + (digits decimal.coefficient).length

/-- The double-precision number nearest to a decimal.  Magnitudes far outside
the range are infinite or zero without any computation. -/
def toFloat (decimal : Decimal) : Float :=
  let size :=
    if decimal.coefficient = 0 ∨ decimal.magnitude < -400 then 0.0
    else if 400 < decimal.magnitude then 1.0 / 0.0
    else
      Float.ofScientific decimal.coefficient (decimal.exponent < 0)
        decimal.exponent.natAbs
  if decimal.negative then -size else size

/-- How the digits of a number are laid out. -/
structure Layout where
  /-- What follows the digits of a whole number. -/
  wholeMark : Text
  /-- Whether a number is written without an exponent, given the exponent
  that its scientific form would have. -/
  isPositional : Int → Bool

/-- Digits with the point where the exponent puts it. -/
def positional (layout : Layout) (shown : Text) (exponent : Int) : Text :=
  if 0 ≤ exponent then
    shown ++ List.replicate exponent.toNat '0' ++ layout.wholeMark
  else
    let places := exponent.natAbs
    if places < shown.length then
      shown.take (shown.length - places) ++
        '.' :: shown.drop (shown.length - places)
    else
      '0' :: '.' :: (List.replicate (places - shown.length) '0' ++ shown)

/-- Digits with a point behind the first and an exponent with its sign. -/
def scientific (shown : Text) (power : Int) : Text :=
  let head := match shown with
    | first :: second :: rest => first :: '.' :: second :: rest
    | short => short
  head ++ 'e' :: (if power < 0 then '-' else '+') :: digits power.natAbs

def toText (layout : Layout) (decimal : Decimal) : Text :=
  let shown := digits decimal.coefficient
  let power := decimal.exponent + shown.length - 1
  let body :=
    if decimal.coefficient = 0 then positional layout ['0'] 0
    else if layout.isPositional power then
      positional layout shown decimal.exponent
    else scientific shown power
  if decimal.negative then '-' :: body else body

end Decimal

end TurtleSystems
