import Questionnaire.Number.Basic

/-!
# The nearest number to a fraction

`FiniteNumber.nearest? negative num den` is the binary64 number nearest to `num / den`, with the
given sign; of two equally near ones it takes the one with the even significand, and from half a
unit above the largest number on there is none. The fraction is scaled so that its whole part has 53
binary digits, or fewer where numbers thin out near zero, and the whole part is rounded. A carry
into a 54th digit needs no care: the rank it gives is that of the next power of two.

Products and quotients of numbers are taken exactly, as fractions, and rounded once.
-/

namespace Questionnaire

namespace FiniteNumber

/-- The whole number nearest to `num / den`; a half goes to the even neighbour. -/
def roundHalfEven (num den : Nat) : Nat :=
  let quotient := num / den
  let twice := 2 * (num % den)
  if twice < den then quotient
  else if den < twice then quotient + 1
  else quotient + quotient % 2

/-- The integer `k` with `2 ^ k ≤ num / den < 2 ^ (k + 1)`, for positive `num` and `den`. -/
def binaryScale (num den : Nat) : Int :=
  let guess : Int := (num.log2 : Int) - den.log2
  if den * Nat.pow 2 guess.toNat ≤ num * Nat.pow 2 (-guess).toNat then guess else guess - 1

/-- The exponent of the last binary digit kept of `num / den`. -/
def unitExponent (num den : Nat) : Int :=
  max (-1074) (binaryScale num den - 52)

/-- The rank of the magnitude nearest to `num / den`, where ranks go on past the finite ones. -/
def nearestRank (num den : Nat) : Nat :=
  let q := unitExponent num den
  let m := roundHalfEven (num * Nat.pow 2 (-q).toNat) (den * Nat.pow 2 q.toNat)
  (q + 1074).toNat * binadeSize + m

/-- The number nearest to `num / den`, with the sign, unless it is beyond the finite ones. -/
def nearest? (negative : Bool) (num den : Nat) : Option FiniteNumber :=
  if num = 0 then some (signedZero negative)
  else if h : nearestRank num den < infiniteRank then some ⟨negative, nearestRank num den, h⟩
  else none

/-- The number nearest to an integer. -/
def ofInt? (n : Int) : Option FiniteNumber :=
  nearest? (decide (n < 0)) n.natAbs 1

/-! ## Rounded arithmetic -/

/-- The magnitude as a fraction in powers of two: what stands above the line. -/
def numerator (x : FiniteNumber) : Nat :=
  x.significand * Nat.pow 2 x.exponent.toNat

/-- The magnitude as a fraction in powers of two: what stands below the line. -/
def denominator (x : FiniteNumber) : Nat :=
  Nat.pow 2 (-x.exponent).toNat

/-- The product, rounded to the nearest number. -/
def times? (x y : FiniteNumber) : Option FiniteNumber :=
  nearest? (x.negative != y.negative) (x.numerator * y.numerator) (x.denominator * y.denominator)

/-- The quotient by a number that is not zero, rounded to the nearest number. -/
def over? (x y : FiniteNumber) : Option FiniteNumber :=
  nearest? (x.negative != y.negative) (x.numerator * y.denominator) (x.denominator * y.numerator)

/-- A position in a sequence as a percentage of its length: the quotient, its hundredfold and the
whole number nearest to that are each rounded in turn, the last with halves going up. -/
def percent (part whole : Nat) : Nat :=
  let scaled? := do
    let share ← nearest? false part whole
    nearest? false (100 * share.numerator) share.denominator
  match scaled? with
  | none => 100
  | some x => (2 * x.numerator + x.denominator) / (2 * x.denominator)

end FiniteNumber

/-- The number nearest to an integer; beyond the finite numbers it is an infinity. -/
def Number.ofInt (n : Int) : Number :=
  match FiniteNumber.ofInt? n with
  | some x => .finite x
  | none => .infinite (decide (n < 0))

end Questionnaire
