import Questionnaire.Number.Decimal

/-!
# The shortest decimal of a number

A number is written with the fewest digits that read back, that is, to which it is the nearest
number (`Decimal.toNumber?`). The exact decimal of the number is cut after one digit, two digits,
and so on; each cut has a neighbour below and one above, and the first length at which one of them
reads back is taken. Where both do, the nearer one is taken, and where they are equally near a `Tie`
decides. The cut after the last digit is the exact decimal itself, so the search always ends.
-/

namespace Questionnaire

/-- Which of two equally near decimals is taken. -/
inductive Tie where
  /-- The one whose last digit is even. -/
  | toEven
  /-- The greater one. -/
  | up
deriving DecidableEq

namespace Decimal

/-- The decimal without trailing zeros among its digits. -/
def normal (d : Decimal) : Decimal :=
  if d.digits = 0 then ⟨d.negative, 0, 0⟩
  else
    let zeros := ((Nat.toDigits 10 d.digits).reverse.takeWhile (· = '0')).length
    ⟨d.negative, d.digits / Nat.pow 10 zeros, d.exponent + zeros⟩

/-- The digits cut to the given number of leading ones. -/
def cutBelow (d : Decimal) (kept : Nat) : Decimal :=
  let dropped := width d.digits - kept
  ⟨d.negative, d.digits / Nat.pow 10 dropped, d.exponent + dropped⟩

/-- The neighbour above the digits cut to the given number of leading ones. -/
def cutAbove (d : Decimal) (kept : Nat) : Decimal :=
  { d.cutBelow kept with digits := (d.cutBelow kept).digits + 1 }

/-- Whether the cut is nearer than its neighbour above; the tie goes as told. -/
def prefersBelow (tie : Tie) (d : Decimal) (kept : Nat) : Bool :=
  let unit := Nat.pow 10 (width d.digits - kept)
  let twice := 2 * (d.digits % unit)
  if twice = unit then
    match tie with
    | .toEven => (d.digits / unit) % 2 == 0
    | .up => false
  else decide (twice < unit)

end Decimal

namespace FiniteNumber

/-- The cut of the exact decimal to `kept` digits, or its neighbour above, if it reads back. -/
def shortestAt? (tie : Tie) (x : FiniteNumber) (kept : Nat) : Option Decimal :=
  let below := x.exact.cutBelow kept
  let above := x.exact.cutAbove kept
  let (nearer, farther) :=
    if x.exact.prefersBelow tie kept then (below, above) else (above, below)
  if nearer.toNumber? = some x then some nearer
  else if farther.toNumber? = some x then some farther
  else none

/-- The shortest decimal from which the number is read back, without trailing zeros. -/
def shortest (tie : Tie) (x : FiniteNumber) : Decimal :=
  (((List.range (Decimal.width x.exact.digits)).findSome? fun i => x.shortestAt? tie (i + 1)).getD
    x.exact).normal

end FiniteNumber

end Questionnaire
