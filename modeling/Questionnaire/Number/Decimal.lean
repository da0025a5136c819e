import Questionnaire.Number.Nearest

/-!
# Decimals

A decimal is a sign, a whole number of digits and a power of ten. Every finite binary64 number is
one exactly (`FiniteNumber.exact`), and every decimal that is not too large has a nearest one
(`Decimal.toNumber?`). Exponents may be as large as a text cares to write them; a decimal that is
certainly out of range is recognised by its number of digits before any power of ten is formed.
-/

namespace Questionnaire

/-- The decimal `± digits * 10 ^ exponent`. -/
structure Decimal where
  /-- Whether there is a minus sign. -/
  negative : Bool
  /-- The digits, as a whole number. -/
  digits : Nat
  /-- The power of ten. -/
  exponent : Int
deriving DecidableEq

namespace Decimal

/-- How many decimal digits a whole number is written with. -/
def width (n : Nat) : Nat :=
  (Nat.toDigits 10 n).length

/-- The nearest binary64 number, unless the decimal is beyond the finite ones. From `10 ^ 309` on
there is none, and below `10 ^ (-324)` it is zero. -/
def toNumber? (d : Decimal) : Option FiniteNumber :=
  let top : Int := width d.digits + d.exponent
  if d.digits = 0 ∨ top ≤ -324 then some (.signedZero d.negative)
  else if 310 ≤ top then none
  else FiniteNumber.nearest? d.negative (d.digits * Nat.pow 10 d.exponent.toNat)
    (Nat.pow 10 (-d.exponent).toNat)

/-! ## Parts of a written decimal -/

/-- The decimal written with the given whole digits, fraction digits and exponent. -/
def ofParts (negative : Bool) (whole fraction : List Char) (exponent : Int) : Decimal :=
  ⟨negative, Nat.ofDigitChars 10 (whole ++ fraction) 0, exponent - fraction.length⟩

/-- The leading decimal digits and the rest. -/
def splitDigits (cs : List Char) : List Char × List Char :=
  (cs.takeWhile Char.isDigit, cs.dropWhile Char.isDigit)

/-- An exponent after its mark: an optional sign and at least one digit, and the rest. -/
def readExponent (cs : List Char) : Option (Int × List Char) :=
  let (negative, cs) := match cs with
    | '-' :: rest => (true, rest)
    | '+' :: rest => (false, rest)
    | _ => (false, cs)
  let (digits, rest) := splitDigits cs
  if digits = [] then none
  else
    let size : Int := Nat.ofDigitChars 10 digits 0
    some (if negative then -size else size, rest)

/-- An optional exponent with its mark, and the rest; zero where there is none. -/
def readOptionalExponent : List Char → Option (Int × List Char)
  | 'e' :: rest => readExponent rest
  | 'E' :: rest => readExponent rest
  | cs => some (0, cs)

end Decimal

/-- The number as a decimal, exactly. -/
def FiniteNumber.exact (x : FiniteNumber) : Decimal :=
  if 0 ≤ x.exponent then ⟨x.negative, x.significand * Nat.pow 2 x.exponent.toNat, 0⟩
  else ⟨x.negative, x.significand * Nat.pow 5 (-x.exponent).toNat, x.exponent⟩

end Questionnaire
