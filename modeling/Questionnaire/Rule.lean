import Questionnaire.Json.Shape
import Questionnaire.Number.Style

/-!
# Rules

A rule belongs to a question, its source. It compares the answer to its source with an operand and,
where the comparison holds, shows or hides another question, its target. Comparisons of equality and
membership are of texts; comparisons of size are of numbers, and a text operand may stand for one.
-/

namespace Questionnaire

/-- What a rule does to its target when its condition holds. -/
inductive Rule.Effect where
  /-- The target is shown. -/
  | reveal
  /-- The target is hidden. -/
  | hide
deriving DecidableEq

/-- How a rule compares an answer with its operand. -/
inductive Rule.Condition where
  /-- The answer is the operand. -/
  | equals
  /-- The answer is not the operand. -/
  | notEquals
  /-- The answer is a greater number. -/
  | greaterThan
  /-- The answer is a smaller number. -/
  | lessThan
  /-- The operand is one of the options selected. -/
  | contains
  /-- The operand is none of the options selected. -/
  | notContains
deriving DecidableEq

/-- What an answer is compared with. -/
inductive Operand where
  /-- A truth value. -/
  | truth (value : Bool)
  /-- A number. -/
  | number (value : Number)
  /-- A text. -/
  | text (value : String)
deriving DecidableEq

/-- A rule of a question on the visibility of another. -/
structure Rule where
  /-- The id of the question shown or hidden. -/
  target : String
  /-- What happens to the target. -/
  effect : Rule.Effect
  /-- How the answer is compared. -/
  condition : Rule.Condition
  /-- What the answer is compared with. -/
  operand : Operand
deriving DecidableEq

namespace Rule

/-- Whether a condition asks for membership in a set of selected options. -/
def Condition.isMembership : Condition → Bool
  | .contains | .notContains => true
  | _ => false

/-- Whether a condition compares numbers. -/
def Condition.isNumeric : Condition → Bool
  | .greaterThan | .lessThan => true
  | _ => false

/-- The name of a condition in reports on a survey. -/
def Condition.title : Condition → String
  | .equals => "Equals"
  | .notEquals => "NotEquals"
  | .greaterThan => "GreaterThan"
  | .lessThan => "LessThan"
  | .contains => "Contains"
  | .notContains => "NotContains"

end Rule

namespace Operand

/-- The operand as a text, the form in which equality and membership are decided. -/
def asText : Operand → String
  | .truth true => "true"
  | .truth false => "false"
  | .number x => x.toProse
  | .text s => s

/-- The operand as a number, if it is or reads as one. -/
def asNumber? : Operand → Option Number
  | .truth _ => none
  | .number x => some x
  | .text s => (FiniteNumber.ofText? s).map .finite

/-! ## Rules as JSON -/

/-- An operand as JSON. -/
def toJson : Operand → Json
  | .truth b => .bool b
  | .number x => .real x
  | .text s => .text s

/-- The operand that a JSON value holds. -/
def ofJson (value : Json) : Except Json.Fault Operand := do
  match ← value.whole with
  | .bool b => return .truth b
  | .text s => return .text s
  | value => return .number (← value.asNumber)

end Operand

namespace Rule

/-- The spellings of what a rule does. -/
def effects : List (String × Effect) :=
  [("show", .reveal), ("hide", .hide)]

/-- The spelling of what a rule does. -/
def Effect.spelling : Effect → String
  | .reveal => "show"
  | .hide => "hide"

/-- The spellings of conditions. -/
def conditions : List (String × Condition) :=
  [("equals", .equals), ("not_equals", .notEquals), ("greater_than", .greaterThan),
   ("less_than", .lessThan), ("contains", .contains), ("not_contains", .notContains)]

/-- The spelling of a condition. -/
def Condition.spelling : Condition → String
  | .equals => "equals"
  | .notEquals => "not_equals"
  | .greaterThan => "greater_than"
  | .lessThan => "less_than"
  | .contains => "contains"
  | .notContains => "not_contains"

/-- A rule as JSON. -/
def toJson (rule : Rule) : Json :=
  .object
    [("targetQuestionId", .text rule.target), ("action", .text rule.effect.spelling),
     ("condition", .text rule.condition.spelling), ("value", rule.operand.toJson)]

/-- The rule that a JSON value holds. -/
def ofJson (value : Json) : Except Json.Fault Rule := do
  let fields ← value.asRecord ["targetQuestionId", "action", "condition", "value"] .malformed
  return {
    target := ← fields.required "targetQuestionId" Json.asText
    effect := ← fields.required "action" (Json.asOneOf effects)
    condition := ← fields.required "condition" (Json.asOneOf conditions)
    operand := ← fields.required "value" Operand.ofJson }

end Rule

end Questionnaire
