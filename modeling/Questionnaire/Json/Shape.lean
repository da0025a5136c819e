import Questionnaire.Json.Basic
import Questionnaire.Number.Nearest

/-!
# Reading values as something

The functions here ask a JSON value for a shape: a string, a count, a list, a record with named
fields. Each either gives what was asked for or says with a `Fault` what is wrong.

A *record* is an object, or an array that lists the fields in their declared order and may leave off
those at the end. A field name that occurs twice in an object is a fault; other names are passed
over, whatever their values hold.
-/

namespace Questionnaire.Json

/-! ## Simple values -/

/-- The fault of a value that has another shape than asked for. -/
def wrongShape : Json → Fault
  | .illegible => .malformed
  | _ => .misshapen

/-- The value as a string. -/
def asText : Json → Except Fault String
  | .text s => .ok s
  | other => .error other.wrongShape

/-- The value as a truth value. -/
def asBool : Json → Except Fault Bool
  | .bool b => .ok b
  | other => .error other.wrongShape

/-- The value as a number, integers included. -/
def asNumber : Json → Except Fault Number
  | .integer n =>
    match FiniteNumber.ofInt? n with
    | some x => .ok (.finite x)
    | none => .error .malformed
  | .real x => .ok x
  | other => .error other.wrongShape

/-- The value as an integer between two bounds. -/
def asIntegerIn (low high : Int) : Json → Except Fault Int
  | .integer n => if low ≤ n ∧ n ≤ high then .ok n else .error .misshapen
  | other => .error other.wrongShape

/-- The value as a count or a size. -/
def asCount (value : Json) : Except Fault UInt64 := do
  return UInt64.ofNat (← value.asIntegerIn 0 (UInt64.size - 1)).toNat

/-- The value as a whole number from 0 to 255. -/
def asByte (value : Json) : Except Fault UInt8 := do
  return UInt8.ofNat (← value.asIntegerIn 0 255).toNat

/-- The value read by the given reader, or nothing for `null`. -/
def asOptional {α : Type} (read : Json → Except Fault α) : Json → Except Fault (Option α)
  | .null => .ok none
  | value => some <$> read value

/-- The items of a list, each read by the given reader. -/
def asList {α : Type} (read : Json → Except Fault α) : Json → Except Fault (List α)
  | .array items => items.mapM read
  | other => .error other.wrongShape

/-- The members of an object, each value read by the given reader. -/
def asMembers {α : Type} (read : Json → Except Fault α) : Json → Except Fault (List (String × α))
  | .object members => members.mapM fun (name, value) => (name, ·) <$> read value
  | other => .error other.wrongShape

/-- The value itself, if nothing in it is illegible. -/
def whole (value : Json) : Except Fault Json :=
  if value.legible then .ok value else .error .malformed

/-- One of a list of spelled alternatives: the spelling as a string, or as the only member of an
object whose value is `null`. -/
def asOneOf {α : Type} (alternatives : List (String × α)) : Json → Except Fault α
  | .text name =>
    match alternatives.lookup name with
    | some a => .ok a
    | none => .error .misshapen
  | .object ((name, value) :: rest) =>
    match alternatives.lookup name, value with
    | some a, .null => if rest.isEmpty then .ok a else .error .malformed
    | some _, value => .error value.wrongShape
    | none, _ => .error .misshapen
  | _ => .error .malformed

/-! ## Records -/

/-- The named values of a record. -/
abbrev Fields := List (String × Json)

/-- Whether one of the names occurs twice among the fields. -/
def Fields.repeats (fields : Fields) (names : List String) : Bool :=
  names.any fun name => 1 < fields.countP fun field => field.1 == name

/-- The fields of a record with the given names. Items of an array beyond the names are the given
fault. -/
def asRecord (names : List String) (surplus : Fault) : Json → Except Fault Fields
  | .object members =>
    if Fields.repeats members names then .error .misshapen else .ok members
  | .array items => if names.length < items.length then .error surplus else .ok (names.zip items)
  | other => .error other.wrongShape

/-- A field that must be there. -/
def Fields.required {α : Type} (fields : Fields) (name : String) (read : Json → Except Fault α) :
    Except Fault α :=
  match fields.lookup name with
  | some value => read value
  | none => .error .misshapen

/-- A field that has a default value. -/
def Fields.defaulted {α : Type} (fields : Fields) (name : String) (default : α)
    (read : Json → Except Fault α) : Except Fault α :=
  match fields.lookup name with
  | some value => read value
  | none => .ok default

/-- A field that may be absent or `null`. -/
def Fields.optional {α : Type} (fields : Fields) (name : String) (read : Json → Except Fault α) :
    Except Fault (Option α) :=
  fields.defaulted name none (asOptional read)

/-! ## Building values -/

/-- A list as an array. -/
def ofList {α : Type} (toJson : α → Json) (items : List α) : Json :=
  .array (items.map toJson)

/-- A member that is left out when there is no value. -/
def optionalMember {α : Type} (name : String) (toJson : α → Json) (value : Option α) :
    List (String × Json) :=
  match value with
  | some a => [(name, toJson a)]
  | none => []

/-- A count as a value. -/
def ofCount (n : UInt64) : Json :=
  .integer n.toNat

end Questionnaire.Json
