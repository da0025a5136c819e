/-!
# Binary64 numbers

A number in a survey is a binary64 value: a finite one, one of the two infinities, or NaN. What is
read from a text or from JSON is finite, so the others come only from a program that builds a survey
or gives an answer itself. One `nan` stands for all, since nothing here tells one from another.

The magnitudes of the finite numbers are counted upwards from zero, so a finite number is a sign and
the *rank* of its magnitude: rank `0` is zero, rank `1` the least magnitude above it, and so on.
There are `2 ^ 52` magnitudes below the least normal one and as many in each of the 2046 *binades*
after that, from one power of two up to the next. The rank of a magnitude is also its bit pattern.
Ranks ascend with the values, so comparing numbers is comparing integers (`Number.ordinal?`), and no
comparison needs arithmetic on the values.
-/

namespace Questionnaire

/-- The number of magnitudes in a binade, `2 ^ 52`. -/
abbrev binadeSize : Nat := 0x10000000000000

/-- The rank that infinity has, as the next magnitude after the last finite one. -/
abbrev infiniteRank : Nat := 0x7FF0000000000000

/-! ## Finite numbers -/

/-- A finite binary64 number. -/
structure FiniteNumber where
  /-- Whether the number carries a minus sign; zero has one of its own. -/
  negative : Bool
  /-- How many magnitudes are smaller. -/
  rank : Nat
  /-- The magnitude is finite. -/
  rank_lt : rank < infiniteRank
deriving DecidableEq

namespace FiniteNumber

/-- Zero, with or without a minus sign. -/
def signedZero (negative : Bool) : FiniteNumber := ⟨negative, 0, by decide⟩

/-- Zero without a sign. -/
def zero : FiniteNumber := signedZero false

instance : Inhabited FiniteNumber := ⟨zero⟩

/-- The whole number `m` of the magnitude `m * 2 ^ q`; below `2 ^ 53`. -/
def significand (x : FiniteNumber) : Nat :=
  if x.rank < binadeSize then x.rank else binadeSize + x.rank % binadeSize

/-- The exponent `q` of the magnitude `m * 2 ^ q`; at least `-1074`. -/
def exponent (x : FiniteNumber) : Int :=
  if x.rank < binadeSize then -1074 else (x.rank / binadeSize : Nat) - 1075

/-- The place of the number among all numbers, counted from zero; both zeros have place `0`. -/
def ordinal (x : FiniteNumber) : Int :=
  if x.negative then -x.rank else x.rank

/-- The integer that the number is, unless it has a fraction. -/
def whole? (x : FiniteNumber) : Option Int :=
  let magnitude : Option Nat :=
    if 0 ≤ x.exponent then some (x.significand * Nat.pow 2 x.exponent.toNat)
    else
      let unit := Nat.pow 2 (-x.exponent).toNat
      if x.significand % unit = 0 then some (x.significand / unit) else none
  magnitude.map fun n => if x.negative then -(n : Int) else n

end FiniteNumber

/-! ## All numbers -/

/-- A binary64 number. -/
inductive Number where
  /-- A finite number. -/
  | finite (x : FiniteNumber)
  /-- Infinity, with or without a minus sign. -/
  | infinite (negative : Bool)
  /-- What is no number. -/
  | nan
deriving DecidableEq

namespace Number

instance : Inhabited Number := ⟨finite .zero⟩

/-- Whether the number is neither an infinity nor NaN. -/
def isFinite : Number → Bool
  | finite _ => true
  | _ => false

/-- A finite number is what is left of one that may be anything exactly when it was there. -/
theorem filter_isFinite_eq_some_iff {found : Option Number} {x : Number} :
    found.filter isFinite = some x ↔ ∃ y, x = finite y ∧ found = some (finite y) := by
  cases x <;> simp [Option.filter_eq_some_iff, isFinite]

/-- Nothing is left of a number that may be anything exactly when it was not finite. -/
theorem filter_isFinite_eq_none_iff {found : Option Number} :
    found.filter isFinite = none ↔ ∀ x, found ≠ some (finite x) := by
  match found with
  | none | some (finite _) | some (infinite _) | some nan => simp [isFinite]

/-- The place of the number among all numbers, counted from zero. The infinities stand next to the
last finite numbers; NaN has no place. -/
def ordinal? : Number → Option Int
  | finite x => some x.ordinal
  | infinite negative => some (if negative then -infiniteRank else infiniteRank)
  | nan => none

/-- Whether both numbers have a place and that of the first is before that of the second. -/
def isLess (x y : Number) : Bool :=
  match x.ordinal?, y.ordinal? with
  | some m, some n => decide (m < n)
  | _, _ => false

/-- Numbers are in order when their places are. NaN is neither below nor above any number. -/
instance : LT Number := ⟨fun x y => x.isLess y = true⟩

instance (x y : Number) : Decidable (x < y) :=
  inferInstanceAs (Decidable (x.isLess y = true))

/-- The integer that the number is, unless it has a fraction or is not finite. -/
def whole? : Number → Option Int
  | finite x => x.whole?
  | _ => none

end Number

end Questionnaire
