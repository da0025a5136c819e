import Questionnaire.Number.Basic

/-!
# JSON values

Surveys, answers and reports travel as JSON. Objects keep their members in written order and may
repeat a name; what a repeated name means is for the reader of the object to say. Whole numbers that
fit a 64-bit word are kept apart from all other numbers, because counts and sizes admit only the
former.

Some well-formed texts stand for no value: a number too large for binary64, an escape that names
half a surrogate pair, a container inside 127 others. Such a text may stand where it is skipped, but
not where it is read. The value `illegible` records it, so that one reading of the text serves both.
-/

namespace Questionnaire

/-- A JSON value. -/
inductive Json where
  /-- The value `null`. -/
  | null
  /-- A truth value. -/
  | bool (value : Bool)
  /-- A whole number written without fraction and exponent, from `-2 ^ 63` up to `2 ^ 64 - 1`. -/
  | integer (value : Int)
  /-- Any other number. What is read is finite; a number to be written may be any. -/
  | real (value : Number)
  /-- A string. -/
  | text (value : String)
  /-- A list of values. -/
  | array (items : List Json)
  /-- Named values in written order; names may repeat. -/
  | object (members : List (String × Json))
  /-- A well-formed text that stands for no value. -/
  | illegible

namespace Json

instance : Inhabited Json := ⟨null⟩

/-- What is wrong with a JSON text or value that was to be read as something. -/
inductive Fault where
  /-- The text is not JSON, or the value to be read is `illegible`. -/
  | malformed
  /-- The text is JSON of another shape than asked for. -/
  | misshapen
deriving DecidableEq

mutual

/-- Whether nothing in the value is `illegible`. -/
def legible : Json → Bool
  | .illegible => false
  | .array items => legibleItems items
  | .object members => legibleMembers members
  | _ => true

/-- Whether nothing in the values is `illegible`. -/
def legibleItems : List Json → Bool
  | [] => true
  | item :: rest => item.legible && legibleItems rest

/-- Whether nothing in the members is `illegible`. -/
def legibleMembers : List (String × Json) → Bool
  | [] => true
  | (_, value) :: rest => value.legible && legibleMembers rest

end

end Json

end Questionnaire
