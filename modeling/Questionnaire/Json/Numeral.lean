import Questionnaire.Json.Basic
import Questionnaire.Number.Decimal

/-!
# Numbers in JSON

A number without fraction and exponent that fits 64 bits is an integer. Of any other number the
digits are gathered into a 64-bit word, up to the first one that no longer fits (`gather`), which
leaves a decimal with a power of ten. The word is rounded to a binary64 number, the power of ten to
another, and their product or quotient is rounded once more (`Decimal.scaled?`).

Each step is rounded to the nearest, but the result need not be nearest to the number written: with
many digits, or a power of ten beyond `10 ^ 22`, it may be a neighbour. Up to fifteen digits and
that power, both factors are exact and the result is the nearest.
-/

namespace Questionnaire

/-! ## Scaling by powers of ten -/

/-- The number nearest to a power of ten; there is one up to `10 ^ 308`. -/
def FiniteNumber.powerOfTen? (power : Nat) : Option FiniteNumber :=
  nearest? false (Nat.pow 10 power) 1

/-- The decimal as its digits, rounded, times or divided by its power of ten, rounded. A power below
`10 ^ (-308)` is divided by in two steps; below `10 ^ (-616)` nothing would be left of 64 bits. -/
def Decimal.scaled? (d : Decimal) : Option FiniteNumber := do
  let word ← FiniteNumber.nearest? d.negative d.digits 1
  if d.digits = 0 ∨ d.exponent < -616 then some (.signedZero d.negative)
  else if d.exponent < -308 then
    let reduced ← word.over? (← FiniteNumber.powerOfTen? 308)
    reduced.over? (← FiniteNumber.powerOfTen? (-d.exponent - 308).toNat)
  else if d.exponent < 0 then word.over? (← FiniteNumber.powerOfTen? (-d.exponent).toNat)
  else if d.exponent ≤ 308 then word.times? (← FiniteNumber.powerOfTen? d.exponent.toNat)
  else none

namespace Json

/-! ## Gathering digits -/

/-- A word grown by decimal digits up to the first that would make it exceed 64 bits, and the number
of digits that went into it. -/
def gather (word : Nat) : List Char → Nat × Nat
  | [] => (word, 0)
  | digit :: rest =>
    let grown := 10 * word + (digit.toNat - '0'.toNat)
    if grown < UInt64.size then
      let (final, taken) := gather grown rest
      (final, taken + 1)
    else (word, 0)

/-- The decimal that is kept of the digits before and after the point. Whole digits that are left
out count in the power of ten; fraction digits go on where the whole digits stopped. -/
def gathered (negative : Bool) (whole fraction : List Char) (exponent : Int) : Decimal :=
  let (word, before) := gather 0 whole
  let (word, after) := gather word fraction
  ⟨negative, word, exponent + (whole.length - before : Nat) - after⟩

/-- The value of a number: an integer if it is written as one and fits 64 bits. -/
def numeral (negative : Bool) (whole : List Char) (fraction : Option (List Char))
    (exponent : Option Int) : Json :=
  let size := Nat.ofDigitChars 10 whole 0
  let isWhole := fraction.isNone && exponent.isNone
  if isWhole ∧ negative = false ∧ size < UInt64.size then .integer size
  else if isWhole ∧ negative = true ∧ 0 < size ∧ 2 * size ≤ UInt64.size then .integer (-size)
  else
    match (gathered negative whole (fraction.getD []) (exponent.getD 0)).scaled? with
    | some x => .real (.finite x)
    | none => .illegible

end Json

end Questionnaire
