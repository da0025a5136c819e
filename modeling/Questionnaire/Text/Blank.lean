/-!
# Blank characters

A character is *blank* when Unicode gives it the property `White_Space`: twenty-five code points, in
ten ranges. Answers are trimmed of blank characters before they are read as numbers or dates, and a
text of blank characters alone counts as no answer. The zero-width space `U+200B` and the byte-order
mark `U+FEFF` are not blank.
-/

namespace Questionnaire.Text

/-- The ranges of blank code points, in ascending order, both ends included. -/
def blankRanges : List (Nat × Nat) :=
  [(0x0009, 0x000D), (0x0020, 0x0020), (0x0085, 0x0085), (0x00A0, 0x00A0), (0x1680, 0x1680),
   (0x2000, 0x200A), (0x2028, 0x2029), (0x202F, 0x202F), (0x205F, 0x205F), (0x3000, 0x3000)]

/-- Whether a character is blank. -/
def isBlankChar (c : Char) : Bool :=
  blankRanges.any fun range => range.1 ≤ c.toNat && c.toNat ≤ range.2

/-- The text without the blank characters at its start. -/
def dropBlank (cs : List Char) : List Char :=
  cs.dropWhile isBlankChar

/-- The text without the blank characters at its two ends. -/
def trim (s : String) : String :=
  String.ofList (dropBlank (dropBlank s.toList).reverse).reverse

/-- Whether a text has no character that is not blank. -/
def isBlank (s : String) : Bool :=
  s.toList.all isBlankChar

/-- The text with the ASCII capitals made small; other characters stay. -/
def asciiLower (s : String) : String :=
  String.ofList (s.toList.map Char.toLower)

end Questionnaire.Text
