import Questionnaire.Calendar.DateText
import Questionnaire.Question.Basic

/-!
# Questions as JSON

A question is one flat object: the fields common to all questions stand beside the `type` and the
fields of that type. Their order means nothing, and names that belong to neither are passed over,
but what they hold must be legible, as must all that belongs to the type. Fields with a default may
be absent; of the fields with an absent default, only those with a value are written.
-/

namespace Questionnaire

open Json (Fault)

/-! ## Choices -/

/-- A choice as JSON. -/
def Choice.toJson (choice : Choice) : Json :=
  .object [("id", .text choice.id), ("text", choice.text.toJson)]

/-- The choice that a JSON value holds. -/
def Choice.ofJson (value : Json) : Except Fault Choice := do
  let fields ← value.asRecord ["id", "text"] .misshapen
  return {
    id := ← fields.required "id" Json.asText
    text := ← fields.defaulted "text" .empty Wording.ofJson }

/-! ## Bodies, type by type -/

/-- A date as JSON. -/
def Date.toJson (d : Date) : Json :=
  .text d.toText

/-- The date that a JSON value gives as a bound. -/
def Date.ofJson (value : Json) : Except Fault Date := do
  match Date.ofBound? (← value.asText) with
  | some d => return d
  | none => throw .misshapen

namespace Body

/-- The options among the fields of a body. -/
def readOptions (fields : Json.Fields) : Except Fault (List Choice) :=
  fields.defaulted "options" [] (Json.asList Choice.ofJson)

/-- The record of properties among the fields of a body. -/
def readProperties (fields : Json.Fields) (names : List String) : Except Fault Json.Fields :=
  fields.defaulted "properties" [] (Json.asRecord names .misshapen)

/-- A single choice read from its fields. -/
def readPickOne (fields : Json.Fields) : Except Fault PickOne := do
  let options ← readOptions fields
  let properties ← readProperties fields ["randomize", "allowOther"]
  return {
    options
    randomize := ← properties.defaulted "randomize" false Json.asBool
    allowOther := ← properties.defaulted "allowOther" false Json.asBool }

/-- A multiple choice read from its fields. -/
def readPickMany (fields : Json.Fields) : Except Fault PickMany := do
  let options ← readOptions fields
  let properties ← readProperties fields
    ["randomize", "allowOther", "minSelections", "maxSelections"]
  return {
    options
    randomize := ← properties.defaulted "randomize" false Json.asBool
    allowOther := ← properties.defaulted "allowOther" false Json.asBool
    minSelections := ← properties.optional "minSelections" Json.asCount
    maxSelections := ← properties.optional "maxSelections" Json.asCount }

/-- A scale read from its fields. -/
def readScale (fields : Json.Fields) : Except Fault RatingScale := do
  let properties ← readProperties fields ["scale", "minLabel", "maxLabel"]
  return {
    points := ← properties.defaulted "scale" 5 Json.asByte
    minLabel := ← properties.defaulted "minLabel" .empty Wording.ofJson
    maxLabel := ← properties.defaulted "maxLabel" .empty Wording.ofJson }

/-- A text entry read from its fields. -/
def readTextEntry (fields : Json.Fields) : Except Fault TextEntry := do
  let properties ← readProperties fields ["multiline", "maxLength", "placeholder"]
  return {
    multiline := ← properties.defaulted "multiline" false Json.asBool
    maxLength := ← properties.optional "maxLength" Json.asCount
    placeholder := ← properties.defaulted "placeholder" .empty Wording.ofJson }

/-- A grid read from its fields. -/
def readGrid (fields : Json.Fields) : Except Fault Grid := do
  return {
    rows := ← fields.defaulted "rows" [] (Json.asList Choice.ofJson)
    columns := ← fields.defaulted "columns" [] (Json.asList Choice.ofJson) }

/-- A number entry read from its fields. -/
def readNumberEntry (fields : Json.Fields) : Except Fault NumberEntry := do
  let properties ← readProperties fields ["min", "max", "step"]
  return {
    min := ← properties.optional "min" Json.asNumber
    max := ← properties.optional "max" Json.asNumber
    step := ← properties.optional "step" Json.asNumber }

/-- A date entry read from its fields. -/
def readDateEntry (fields : Json.Fields) : Except Fault DateEntry := do
  let properties ← readProperties fields ["min", "max"]
  return {
    min := ← properties.optional "min" Date.ofJson
    max := ← properties.optional "max" Date.ofJson }

/-- A ranking read from its fields. -/
def readRanking (fields : Json.Fields) : Except Fault Ranking := do
  let options ← readOptions fields
  let properties ← readProperties fields ["randomize"]
  return { options, randomize := ← properties.defaulted "randomize" false Json.asBool }

/-- An upload read from its fields. -/
def readUpload (fields : Json.Fields) : Except Fault Upload := do
  let properties ← readProperties fields ["allowedTypes", "maxFiles", "maxFileSize"]
  return {
    allowedTypes := ← properties.defaulted "allowedTypes" [] (Json.asList Json.asText)
    maxFiles := ← properties.optional "maxFiles" Json.asCount
    maxFileSize := ← properties.optional "maxFileSize" Json.asCount }

/-- The names of the fields that make up a body of the kind. -/
def fieldNames : Kind → List String
  | .multipleChoice | .checkboxGroup | .dropdown | .ranking => ["options", "properties"]
  | .matrix => ["rows", "columns"]
  | .sectionBreak => []
  | _ => ["properties"]

/-- The body of the given kind read from its fields. -/
def ofFields (kind : Kind) (fields : Json.Fields) : Except Fault Body :=
  if fields.repeats (fieldNames kind) then .error .misshapen
  else
    match kind with
    | .multipleChoice => .multipleChoice <$> readPickOne fields
    | .checkboxGroup => .checkboxGroup <$> readPickMany fields
    | .likertScale => .likertScale <$> readScale fields
    | .openText => .openText <$> readTextEntry fields
    | .dropdown => .dropdown <$> readPickOne fields
    | .matrix => .matrix <$> readGrid fields
    | .numeric => .numeric <$> readNumberEntry fields
    | .date => .date <$> readDateEntry fields
    | .ranking => .ranking <$> readRanking fields
    | .fileUpload => .fileUpload <$> readUpload fields
    | .sectionBreak => .ok .sectionBreak

/-- The properties of a single choice. -/
def pickOneFields (pick : PickOne) : Json.Fields :=
  [("options", Json.ofList Choice.toJson pick.options),
   ("properties", .object
    [("randomize", .bool pick.randomize), ("allowOther", .bool pick.allowOther)])]

/-- The fields that make up a body, in written order. -/
def toFields : Body → Json.Fields
  | .multipleChoice pick | .dropdown pick => pickOneFields pick
  | .checkboxGroup pick =>
    [("options", Json.ofList Choice.toJson pick.options),
     ("properties", .object (
      [("randomize", .bool pick.randomize), ("allowOther", .bool pick.allowOther)] ++
      Json.optionalMember "minSelections" Json.ofCount pick.minSelections ++
      Json.optionalMember "maxSelections" Json.ofCount pick.maxSelections))]
  | .likertScale scale =>
    [("properties", .object
      [("scale", .integer scale.points.toNat), ("minLabel", scale.minLabel.toJson),
       ("maxLabel", scale.maxLabel.toJson)])]
  | .openText entry =>
    [("properties", .object (
      [("multiline", .bool entry.multiline)] ++
      Json.optionalMember "maxLength" Json.ofCount entry.maxLength ++
      [("placeholder", entry.placeholder.toJson)]))]
  | .matrix grid =>
    [("rows", Json.ofList Choice.toJson grid.rows),
     ("columns", Json.ofList Choice.toJson grid.columns)]
  | .numeric entry =>
    [("properties", .object (
      Json.optionalMember "min" Json.real entry.min ++
      Json.optionalMember "max" Json.real entry.max ++
      Json.optionalMember "step" Json.real entry.step))]
  | .date entry =>
    [("properties", .object (
      Json.optionalMember "min" Date.toJson entry.min ++
      Json.optionalMember "max" Date.toJson entry.max))]
  | .ranking order =>
    [("options", Json.ofList Choice.toJson order.options),
     ("properties", .object [("randomize", .bool order.randomize)])]
  | .fileUpload upload =>
    [("properties", .object (
      (if upload.allowedTypes.isEmpty then []
        else [("allowedTypes", Json.ofList Json.text upload.allowedTypes)]) ++
      Json.optionalMember "maxFiles" Json.ofCount upload.maxFiles ++
      Json.optionalMember "maxFileSize" Json.ofCount upload.maxFileSize))]
  | .sectionBreak => []

end Body

/-! ## Kinds -/

/-- The kind that a JSON value names: by its tag, or by its place in the list of kinds. -/
def Kind.ofJson : Json → Except Fault Kind
  | .text tag =>
    match Kind.all.find? fun kind => kind.tag == tag with
    | some kind => .ok kind
    | none => .error .misshapen
  | .integer place =>
    if place < 0 then .error .misshapen
    else
      match Kind.all[place.toNat]? with
      | some kind => .ok kind
      | none => .error .misshapen
  | other => .error other.wrongShape

/-- The spellings of the kinds. -/
def Kind.spellings : List (String × Kind) :=
  Kind.all.map fun kind => (kind.tag, kind)

/-! ## Questions -/

namespace Question

/-- The names of the fields that all questions share. -/
def commonNames : List String :=
  ["id", "text", "description", "required", "logic"]

/-- A question as JSON. -/
def toJson (q : Question) : Json :=
  .object (
    [("id", .text q.id), ("text", q.text.toJson), ("description", q.description.toJson),
     ("required", .bool q.required), ("type", .text q.kind.tag)] ++ q.body.toFields ++
    (if q.rules.isEmpty then [] else [("logic", Json.ofList Rule.toJson q.rules)]))

/-- The question that the members of an object make up. -/
def ofFields (fields : Json.Fields) : Except Fault Question := do
  if fields.repeats commonNames then throw .misshapen
  let others : Json.Fields := fields.filter fun field => !commonNames.contains field.1
  if !Json.legibleMembers others then throw .malformed
  if others.repeats ["type"] then throw .misshapen
  let kind ← others.required "type" Kind.ofJson
  return {
    id := ← fields.required "id" Json.asText
    text := ← fields.defaulted "text" .empty Wording.ofJson
    description := ← fields.defaulted "description" .empty Wording.ofJson
    required := ← fields.defaulted "required" false Json.asBool
    body := ← Body.ofFields kind others
    rules := ← fields.defaulted "logic" [] (Json.asList Rule.ofJson) }

/-- The question that a JSON value holds. -/
def ofJson : Json → Except Fault Question
  | .object members => ofFields members
  | other => .error other.wrongShape

end Question

end Questionnaire
