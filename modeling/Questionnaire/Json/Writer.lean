import Questionnaire.Json.Basic
import Questionnaire.Number.Style

/-!
# Written JSON

A value is written compactly, without any blank, or indented: one member or item to a line, two
spaces for each level, and a blank after the colon. The two layouts differ in blanks alone. Strings
are written with the short escapes where there is one, with `\u00xx` for the other control
characters, and with all other characters as they are. JSON has no spelling of a number that is not
finite, so `null` stands in its place.
-/

namespace Questionnaire.Json

/-- How a value is spread over lines. -/
inductive Layout where
  /-- No blanks at all. -/
  | compact
  /-- One member or item to a line. -/
  | indented
deriving DecidableEq

/-- What stands before an item on the given level. -/
def Layout.lineBreak (layout : Layout) (level : Nat) : List Char :=
  match layout with
  | .compact => []
  | .indented => '\n' :: List.replicate (2 * level) ' '

/-- What stands between a name and its value. -/
def Layout.colon : Layout → List Char
  | .compact => [':']
  | .indented => [':', ' ']

/-- A character as it is written inside a string. -/
def escapeChar (c : Char) : List Char :=
  match c with
  | '"' => ['\\', '"']
  | '\\' => ['\\', '\\']
  | '\x08' => ['\\', 'b']
  | '\t' => ['\\', 't']
  | '\n' => ['\\', 'n']
  | '\x0c' => ['\\', 'f']
  | '\r' => ['\\', 'r']
  | _ =>
    if c.toNat < 0x20 then
      ['\\', 'u', '0', '0', Nat.digitChar (c.toNat / 16), Nat.digitChar (c.toNat % 16)]
    else [c]

/-- A string in quotes. -/
def writeText (s : String) : List Char :=
  '"' :: (s.toList.flatMap escapeChar ++ ['"'])

/-- An integer in decimal digits. -/
def writeInteger (n : Int) : List Char :=
  if n < 0 then '-' :: Nat.toDigits 10 n.natAbs else Nat.toDigits 10 n.natAbs

/-- A number, or `null` where it is not finite. -/
def writeNumber : Number → List Char
  | .finite x => x.write .data
  | .infinite _ | .nan => ['n', 'u', 'l', 'l']

mutual

/-- The written value; lines after the first are indented for the level. -/
def write (layout : Layout) (level : Nat) : Json → List Char
  | .null => ['n', 'u', 'l', 'l']
  | .bool true => ['t', 'r', 'u', 'e']
  | .bool false => ['f', 'a', 'l', 's', 'e']
  | .integer n => writeInteger n
  | .real x => writeNumber x
  | .text s => writeText s
  | .array [] => ['[', ']']
  | .array (item :: rest) =>
    '[' :: (layout.lineBreak (level + 1) ++ write layout (level + 1) item ++
      writeItems layout (level + 1) rest ++ layout.lineBreak level ++ [']'])
  | .object [] => ['{', '}']
  | .object ((name, value) :: rest) =>
    '{' :: (layout.lineBreak (level + 1) ++ writeText name ++ layout.colon ++
      write layout (level + 1) value ++ writeMembers layout (level + 1) rest ++
      layout.lineBreak level ++ ['}'])
  | .illegible => ['n', 'u', 'l', 'l']

/-- The written items after the first, each with the comma before it. -/
def writeItems (layout : Layout) (level : Nat) : List Json → List Char
  | [] => []
  | item :: rest =>
    ',' :: (layout.lineBreak level ++ write layout level item ++ writeItems layout level rest)

/-- The written members after the first, each with the comma before it. -/
def writeMembers (layout : Layout) (level : Nat) : List (String × Json) → List Char
  | [] => []
  | (name, value) :: rest =>
    ',' :: (layout.lineBreak level ++ writeText name ++ layout.colon ++ write layout level value ++
      writeMembers layout level rest)

end

/-- The value as one line without blanks. -/
def compact (value : Json) : String :=
  String.ofList (value.write .compact 0)

/-- The value with one member or item to a line. -/
def indented (value : Json) : String :=
  String.ofList (value.write .indented 0)

end Questionnaire.Json
