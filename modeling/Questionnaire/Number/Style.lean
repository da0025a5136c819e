import Questionnaire.Number.Shortest
import Questionnaire.Text.Blank

/-!
# Written numbers

Finite numbers are written in two styles, both with the shortest digits that read back. In data
(`Style.data`) a number always shows that it is one that may have a fraction: `3.0`, `2.5`, `-0.0`;
very large and very small ones have an exponent: `1e+16`, `1.5e-7`. In sentences (`Style.prose`) the
digits stand alone and are never shortened by an exponent: `3`, `2.5`, `-0`, `0.0000001`. Sentences
have words for the infinities and for NaN (`Number.toProse`), data have none.

Answers are read as numbers by `FiniteNumber.ofText?`, which takes what people write: blank
characters around, an optional sign, digits with an optional point, an optional exponent. No text is
read as an infinity or as NaN.
-/

namespace Questionnaire

namespace Number

/-- How numbers are written. -/
structure Style where
  /-- Which of two equally near shortest decimals is taken. -/
  tie : Tie
  /-- Whether a whole number is followed by `.0`. -/
  showsPoint : Bool
  /-- The exponents of the leading digit that are written without an exponent part, from the first
  up to and without the second; `none` where all are. -/
  plainRange : Option (Int × Int)

/-- Numbers in data: from `10 ^ (-5)` and below `10 ^ 16` without an exponent, always with a point
or an exponent. -/
def Style.data : Style where
  tie := .toEven
  showsPoint := true
  plainRange := some (-5, 16)

/-- Numbers in sentences: digits and, where there is a fraction, a point. -/
def Style.prose : Style where
  tie := .up
  showsPoint := false
  plainRange := none

/-- The digits with the point in its place and no exponent. -/
def Style.positional (style : Style) (digits : List Char) (exponent : Int) : List Char :=
  let point : Int := digits.length + exponent
  if point ≤ 0 then '0' :: '.' :: (List.replicate (-point).toNat '0' ++ digits)
  else if 0 ≤ exponent then
    digits ++ List.replicate exponent.toNat '0' ++ (if style.showsPoint then ['.', '0'] else [])
  else digits.take point.toNat ++ '.' :: digits.drop point.toNat

/-- The digits with the point after the first and the power of ten, sign included. -/
def scientific (digits : List Char) (exponent : Int) : List Char :=
  let power : Int := digits.length + exponent - 1
  digits.take 1 ++ (if digits.length ≤ 1 then [] else '.' :: digits.drop 1) ++
    'e' :: (if power < 0 then '-' else '+') :: Nat.toDigits 10 power.natAbs

/-- A decimal as the style writes it. -/
def Style.layout (style : Style) (d : Decimal) : List Char :=
  let digits := Nat.toDigits 10 d.digits
  let power : Int := digits.length + d.exponent - 1
  let plain := match style.plainRange with
    | none => true
    | some (first, bound) => d.digits == 0 || (decide (first ≤ power) && decide (power < bound))
  (if d.negative then ['-'] else []) ++
    (if plain then style.positional digits d.exponent else scientific digits d.exponent)

end Number

/-- A finite number as the style writes it. -/
def FiniteNumber.write (style : Number.Style) (x : FiniteNumber) : List Char :=
  style.layout (x.shortest style.tie)

/-- A number as it stands in sentences. -/
def Number.toProse : Number → String
  | .finite x => String.ofList (x.write .prose)
  | .infinite false => "inf"
  | .infinite true => "-inf"
  | .nan => "NaN"

/-- The finite number that a text stands for, if it does: an optional sign, digits with an optional
point among or around them, and an optional exponent, with blank characters around. -/
def FiniteNumber.ofText? (s : String) : Option FiniteNumber := do
  let cs := (Text.trim s).toList
  let (negative, cs) := match cs with
    | '-' :: rest => (true, rest)
    | '+' :: rest => (false, rest)
    | _ => (false, cs)
  let (whole, cs) := Decimal.splitDigits cs
  let (fraction, cs) := match cs with
    | '.' :: rest => Decimal.splitDigits rest
    | _ => ([], cs)
  guard (whole ≠ [] ∨ fraction ≠ [])
  let (exponent, cs) ← Decimal.readOptionalExponent cs
  guard (cs = [])
  (Decimal.ofParts negative whole fraction exponent).toNumber?

end Questionnaire
