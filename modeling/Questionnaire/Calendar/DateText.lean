import Questionnaire.Calendar.Date
import Questionnaire.Text.Blank

/-!
# Written dates

A date is written `YYYY-MM-DD`; a year outside 0 to 9999 has a sign and as many digits as it needs.
There are two readers. `Date.ofAnswer?` takes answers and accepts the ten-character form alone.
`Date.ofBound?` takes the bounds that a survey sets and is lenient: parts may be unpadded, blank
characters may stand around them, and a year with a sign may have more than four digits.
-/

namespace Questionnaire.Date

/-- A number in decimal digits, with zeros in front up to the width. -/
def padded (width n : Nat) : List Char :=
  let digits := Nat.toDigits 10 n
  List.replicate (width - digits.length) '0' ++ digits

/-- A year as it stands in a date. -/
def writeYear (year : Int) : List Char :=
  if 0 ≤ year ∧ year ≤ 9999 then padded 4 year.toNat
  else (if year < 0 then '-' else '+') :: padded 4 year.natAbs

/-- The date in characters. -/
def write (d : Date) : List Char :=
  writeYear d.year ++ '-' :: padded 2 d.month ++ '-' :: padded 2 d.day

/-- The written date. -/
def toText (d : Date) : String :=
  String.ofList d.write

/-! ## Dates in answers -/

/-- The date of ten characters: four digits, a hyphen, two digits, a hyphen, two digits. -/
def ofAnswerChars? : List Char → Option Date
  | [a, b, c, d, '-', e, f, '-', g, h] =>
    if [a, b, c, d, e, f, g, h].all Char.isDigit then
      of? (Nat.ofDigitChars 10 [a, b, c, d] 0) (Nat.ofDigitChars 10 [e, f] 0)
        (Nat.ofDigitChars 10 [g, h] 0)
    else none
  | _ => none

/-- The date that an answer gives, in the form `YYYY-MM-DD` and no other. -/
def ofAnswer? (s : String) : Option Date :=
  ofAnswerChars? s.toList

/-! ## Dates in surveys -/

/-- At least one digit and at most `limit`, as a number, and the rest. -/
def readDigits (limit : Nat) (cs : List Char) : Option (Nat × List Char) :=
  let digits := (cs.takeWhile Char.isDigit).take limit
  if digits = [] then none else some (Nat.ofDigitChars 10 digits 0, cs.drop digits.length)

/-- A year after optional blank characters, and the rest; without a sign at most four digits. -/
def readYear (cs : List Char) : Option (Int × List Char) :=
  match Text.dropBlank cs with
  | '-' :: rest => (readDigits rest.length rest).map fun (n, rest) => (-(n : Int), rest)
  | '+' :: rest => (readDigits rest.length rest).map fun (n, rest) => ((n : Int), rest)
  | cs => (readDigits 4 cs).map fun (n, rest) => ((n : Int), rest)

/-- A hyphen and a number of at most two digits, with blank characters allowed before each, and the
rest. -/
def readPart (cs : List Char) : Option (Nat × List Char) :=
  match Text.dropBlank cs with
  | '-' :: rest => readDigits 2 (Text.dropBlank rest)
  | _ => none

/-- The date that a survey gives as a bound. -/
def ofBound? (s : String) : Option Date := do
  let (year, cs) ← readYear s.toList
  let (month, cs) ← readPart cs
  let (day, cs) ← readPart cs
  guard (Text.dropBlank cs = [])
  of? year month day

end Questionnaire.Date
