import TurtleSystems.Decimal

/-!
# Numerals

A numeral is a number as it is written: an optional minus sign, whole digits,
and an optional fraction and exponent.  It stands for a decimal.
-/

namespace TurtleSystems

/-- A number as it is written. -/
structure Numeral where
  negative : Bool
  whole : Text
  fraction : Text
  power : Int
  /-- Whether there is a fraction or an exponent. -/
  isFloating : Bool
  deriving DecidableEq, Repr

namespace Numeral

/-- The decimal that a numeral stands for. -/
def toDecimal (numeral : Numeral) : Decimal where
  negative := numeral.negative
  coefficient := Decimal.ofDigits (numeral.whole ++ numeral.fraction)
  exponent := numeral.power - numeral.fraction.length

/-- Read an optional minus sign and whole digits without needless zeros in
front. -/
def readWhole (text : Text) : Option (Numeral × Text) :=
  let (negative, text) := match text with
    | '-' :: text => (true, text)
    | _ => (false, text)
  let (whole, rest) := text.span Decimal.isDigit
  match whole with
  | [] => none
  | '0' :: _ :: _ => none
  | _ => some (⟨negative, whole, [], 0, false⟩, rest)

/-- Read an optional point with the digits behind it, at least one. -/
def readFraction (numeral : Numeral) (text : Text) :
    Option (Numeral × Text) :=
  match text with
  | '.' :: text =>
    let (fraction, rest) := text.span Decimal.isDigit
    if fraction.isEmpty then none
    else some ({ numeral with fraction, isFloating := true }, rest)
  | _ => some (numeral, text)

/-- Read an optional letter `e` with a sign and the digits behind it, at least
one. -/
def readPower (numeral : Numeral) (text : Text) : Option (Numeral × Text) :=
  match text with
  | [] => some (numeral, [])
  | letter :: behind =>
    if letter = 'e' ∨ letter = 'E' then
      let (negative, behind) := match behind with
        | '-' :: behind => (true, behind)
        | '+' :: behind => (false, behind)
        | _ => (false, behind)
      let (digits, rest) := behind.span Decimal.isDigit
      if digits.isEmpty then none
      else
        let size : Int := Decimal.ofDigits digits
        let power := if negative then -size else size
        some ({ numeral with power, isFloating := true }, rest)
    else some (numeral, text)

/-- Read a numeral in front of a text: the numeral and the rest of the
text. -/
def read? (text : Text) : Option (Numeral × Text) := do
  let (numeral, rest) ← readWhole text
  let (numeral, rest) ← numeral.readFraction rest
  numeral.readPower rest

end Numeral

end TurtleSystems
