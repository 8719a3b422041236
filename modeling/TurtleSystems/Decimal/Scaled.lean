import TurtleSystems.Decimal.Numeral

/-!
# Scaled numbers

A numeral becomes a double-precision number quickly when the digits in front,
as many as fit 64 bits, are taken as a whole number that is then multiplied
or divided by a power of ten.  Each of these steps rounds, so the result may
lie beside the number that is nearest to the numeral.
-/

namespace TurtleSystems.Numeral

/-- Write digits behind a number as long as it fits 64 bits: the number, and
the digits that are left over. -/
def leading : (number : Nat) → Text → Nat × Text
  | number, [] => (number, [])
  | number, digit :: digits =>
    let extended := 10 * number + (digit.toNat - '0'.toNat)
    if extended < UInt64.size then leading extended digits
    else (number, digit :: digits)

/-- The greatest power of ten that is a double-precision number. -/
def greatestPower : Nat := 308

/-- The double-precision number nearest to a power of ten. -/
def powerOfTen (power : Nat) : Float :=
  Float.ofScientific 1 false power

/-- Multiply a number by a power of ten.  A product that is too large is no
number.  A division by more than the greatest power is made in two steps. -/
def scale? (number : Float) (power : Int) : Option Float :=
  let size := power.natAbs
  if 0 ≤ power then
    if greatestPower < size then
      if number == 0 then some number else none
    else
      let product := number * powerOfTen size
      if product.isInf then none else some product
  else if size ≤ greatestPower then some (number / powerOfTen size)
  else
    let divided := number / powerOfTen greatestPower
    if size ≤ 2 * greatestPower then
      some (divided / powerOfTen (size - greatestPower))
    else some (divided / powerOfTen greatestPower)

/-- The scaled number of a numeral, unless it is too large. -/
def scaled? (numeral : Numeral) : Option Float :=
  let (first, unused) := leading 0 numeral.whole
  let (significand, dropped) := leading first numeral.fraction
  let places : Int := numeral.fraction.length - dropped.length
  let size := scale? (UInt64.ofNat significand).toFloat
    (numeral.power + unused.length - places)
  if numeral.negative then size.map (-·) else size

end TurtleSystems.Numeral
