import Questionnaire.Json.Numeral

/-!
# Reading JSON

`Json.parse?` reads a text strictly: no comments, no trailing commas, no leading zeros, no raw
control characters in strings, and nothing but blanks after the value. A text that breaks the
grammar gives `none`; what the grammar admits but no value can hold becomes `Json.illegible`.

A string is read in two steps. `scanText` cuts it into characters and numbered code units, which is
all that the grammar asks. `spell?` then joins surrogate pairs and fails on a half that stands
alone.
-/

namespace Questionnaire.Json

/-- The characters that may stand between the parts of a text. -/
def isSpace (c : Char) : Bool :=
  c == ' ' || c == '\t' || c == '\n' || c == '\r'

/-- The text after leading blanks. -/
def skipSpace (cs : List Char) : List Char :=
  cs.dropWhile isSpace

/-! ## Strings -/

/-- A part of a string: a character, or a 16-bit code unit given by its number. -/
inductive TextPart where
  /-- A character that stands for itself or has a short escape. -/
  | char (c : Char)
  /-- The code unit of a numeric escape. -/
  | unit (code : Nat)
deriving DecidableEq

/-- The value of a hexadecimal digit of either case. -/
def hexValue? (c : Char) : Option Nat :=
  if c.isDigit then some (c.toNat - '0'.toNat)
  else if 'a' ≤ c ∧ c ≤ 'f' then some (c.toNat - 'a'.toNat + 10)
  else if 'A' ≤ c ∧ c ≤ 'F' then some (c.toNat - 'A'.toNat + 10)
  else none

/-- The code unit that four hexadecimal digits name. -/
def codeUnit? (a b c d : Char) : Option Nat := do
  return (((← hexValue? a) * 16 + (← hexValue? b)) * 16 + (← hexValue? c)) * 16 + (← hexValue? d)

/-- The character that a one-letter escape names. -/
def shortEscape? : Char → Option Char
  | '"' => some '"'
  | '\\' => some '\\'
  | '/' => some '/'
  | 'b' => some '\x08'
  | 'f' => some '\x0c'
  | 'n' => some '\n'
  | 'r' => some '\r'
  | 't' => some '\t'
  | _ => none

/-- The parts of a string up to its closing quote, and the text after that. -/
def scanText : List Char → Option (List TextPart × List Char)
  | [] => none
  | '"' :: rest => some ([], rest)
  | '\\' :: 'u' :: a :: b :: c :: d :: rest => do
    let code ← codeUnit? a b c d
    let (parts, rest) ← scanText rest
    some (.unit code :: parts, rest)
  | '\\' :: mark :: rest => do
    let c ← shortEscape? mark
    let (parts, rest) ← scanText rest
    some (.char c :: parts, rest)
  | c :: rest => do
    guard (c ≠ '\\' ∧ 0x20 ≤ c.toNat)
    let (parts, rest) ← scanText rest
    some (.char c :: parts, rest)

/-- Whether a code unit is the first half of a surrogate pair. -/
def isHighSurrogate (code : Nat) : Bool :=
  0xD800 ≤ code && code < 0xDC00

/-- Whether a code unit is the second half of a surrogate pair. -/
def isLowSurrogate (code : Nat) : Bool :=
  0xDC00 ≤ code && code < 0xE000

/-- The characters that the parts spell, unless half a surrogate pair stands alone. -/
def spell? : List TextPart → Option (List Char)
  | [] => some []
  | .char c :: rest => (spell? rest).map (c :: ·)
  | .unit high :: .unit low :: rest =>
    if isHighSurrogate high && isLowSurrogate low then
      (spell? rest).map (Char.ofNat (0x10000 + (high - 0xD800) * 0x400 + (low - 0xDC00)) :: ·)
    else if isHighSurrogate high || isLowSurrogate high then none
    else (spell? (.unit low :: rest)).map (Char.ofNat high :: ·)
  | .unit code :: rest =>
    if isHighSurrogate code || isLowSurrogate code then none
    else (spell? rest).map (Char.ofNat code :: ·)

/-- The string after an opening quote, `none` inside if it cannot be spelled, and the text after. -/
def readText (cs : List Char) : Option (Option String × List Char) := do
  let (parts, rest) ← scanText cs
  some ((spell? parts).map String.ofList, rest)

/-! ## Numbers -/

/-- The digits before the point: a single zero, or digits that start with another one. -/
def readWhole : List Char → Option (List Char × List Char)
  | '0' :: rest => some (['0'], rest)
  | cs =>
    let (digits, rest) := Decimal.splitDigits cs
    if digits = [] then none else some (digits, rest)

/-- The digits after a point, where there is one. -/
def readFraction : List Char → Option (Option (List Char) × List Char)
  | '.' :: rest =>
    let (digits, rest) := Decimal.splitDigits rest
    if digits = [] then none else some (some digits, rest)
  | cs => some (none, cs)

/-- The exponent after its mark, where there is one. -/
def readPower : List Char → Option (Option Int × List Char)
  | 'e' :: rest => (Decimal.readExponent rest).map fun (power, rest) => (some power, rest)
  | 'E' :: rest => (Decimal.readExponent rest).map fun (power, rest) => (some power, rest)
  | cs => some (none, cs)

/-- A number and the text after it. -/
def readNumber (cs : List Char) : Option (Json × List Char) := do
  let (negative, cs) := match cs with
    | '-' :: rest => (true, rest)
    | _ => (false, cs)
  let (whole, cs) ← readWhole cs
  let (fraction, cs) ← readFraction cs
  let (power, cs) ← readPower cs
  some (numeral negative whole fraction power, cs)

/-! ## Values -/

/-- How many containers may be nested. -/
def depthLimit : Nat := 127

/-- A container inside `depth` others, if that many may be nested. -/
def nested (depth : Nat) (value : Json) : Json :=
  if depth < depthLimit then value else .illegible

/-- The object of the members read, if all their names can be spelled. -/
def ofMembers (members : List (Option String × Json)) : Json :=
  match members.mapM fun (name, value) => name.map (·, value) with
  | some members => .object members
  | none => .illegible

mutual

/-- A value inside `depth` containers, and the text after it. -/
def readValue (fuel depth : Nat) (cs : List Char) : Option (Json × List Char) :=
  match fuel with
  | 0 => none
  | fuel + 1 =>
    match skipSpace cs with
    | '[' :: rest =>
      match skipSpace rest with
      | ']' :: rest => some (nested depth (.array []), rest)
      | rest => do
        let (items, rest) ← readItems fuel (depth + 1) rest
        some (nested depth (.array items), rest)
    | '{' :: rest =>
      match skipSpace rest with
      | '}' :: rest => some (nested depth (.object []), rest)
      | rest => do
        let (members, rest) ← readMembers fuel (depth + 1) rest
        some (nested depth (ofMembers members), rest)
    | '"' :: rest => do
      let (value, rest) ← readText rest
      some (value.elim .illegible .text, rest)
    | 'n' :: 'u' :: 'l' :: 'l' :: rest => some (.null, rest)
    | 't' :: 'r' :: 'u' :: 'e' :: rest => some (.bool true, rest)
    | 'f' :: 'a' :: 'l' :: 's' :: 'e' :: rest => some (.bool false, rest)
    | cs => readNumber cs

/-- The items of an array up to its closing bracket, at least one, and the text after that. -/
def readItems (fuel depth : Nat) (cs : List Char) : Option (List Json × List Char) :=
  match fuel with
  | 0 => none
  | fuel + 1 => do
    let (item, rest) ← readValue fuel depth cs
    match skipSpace rest with
    | ']' :: rest => some ([item], rest)
    | ',' :: rest => do
      let (items, rest) ← readItems fuel depth rest
      some (item :: items, rest)
    | _ => none

/-- The members of an object up to its closing brace, at least one, and the text after that. -/
def readMembers (fuel depth : Nat) (cs : List Char) :
    Option (List (Option String × Json) × List Char) :=
  match fuel with
  | 0 => none
  | fuel + 1 =>
    match skipSpace cs with
    | '"' :: rest => do
      let (name, rest) ← readText rest
      match skipSpace rest with
      | ':' :: rest => do
        let (value, rest) ← readValue fuel depth rest
        match skipSpace rest with
        | '}' :: rest => some ([(name, value)], rest)
        | ',' :: rest => do
          let (members, rest) ← readMembers fuel depth rest
          some ((name, value) :: members, rest)
        | _ => none
      | _ => none
    | _ => none

end

/-- The value that a text holds, if the text is JSON from its start to its end. Every step of the
reader but those that open a value takes a character, so twice the length suffices for its fuel. -/
def parse? (text : String) : Option Json := do
  let cs := text.toList
  let (value, rest) ← readValue (2 * cs.length + 2) 0 cs
  guard (skipSpace rest = [])
  some value

/-- What a text holds, as the given reader of values has it. -/
def load {α : Type} (read : Json → Except Fault α) (text : String) : Except Fault α :=
  match parse? text with
  | some value => read value
  | none => .error .malformed

end Questionnaire.Json
