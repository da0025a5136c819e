import Questionnaire.Answer.Basic
import Questionnaire.Json.Shape

/-!
# Answers as JSON

An answer carries no mark of its shape; the JSON value shows it. A number, a string and an object
are a number, a text and a grid. An array of strings is a list, the empty array included, and an
array of file records is a list of files. Collected answers are an object with a member for each
question, in ascending order of the ids.
-/

namespace Questionnaire

open Json (Fault)

/-- A file as JSON. -/
def File.toJson (file : File) : Json :=
  .object ([("name", .text file.name), ("size", Json.ofCount file.size)] ++
    Json.optionalMember "type" Json.text file.mediaType)

/-- The file that a JSON value holds; an array with more items than fields is the given fault. -/
def File.ofJson (surplus : Fault) (value : Json) : Except Fault File := do
  let fields ← value.asRecord ["name", "size", "type"] surplus
  return {
    name := ← fields.required "name" Json.asText
    size := ← fields.required "size" Json.asCount
    mediaType := ← fields.optional "type" Json.asText }

namespace Answer

/-- An answer as JSON. -/
def toJson : Answer → Json
  | .number x => .real x
  | .text s => .text s
  | .list items => Json.ofList Json.text items
  | .files uploads => Json.ofList File.toJson uploads
  | .grid cells => .object (cells.entries.map fun (row, column) => (row, .text column))

/-- The answer that an array holds: a list if all items are strings, else a list of files. -/
def ofItems (items : List Json) : Except Fault Answer :=
  match items.mapM Json.asText with
  | .ok items => .ok (.list items)
  | .error _ => .files <$> items.mapM (File.ofJson .misshapen)

/-- The answer that a JSON value holds. -/
def ofJson (value : Json) : Except Fault Answer := do
  match ← value.whole with
  | .text s => return .text s
  | .array items => ofItems items
  | .object members => return .grid (.ofList (← (Json.object members).asMembers Json.asText))
  | value => return .number (← value.asNumber)

end Answer

namespace Answers

/-- Collected answers as JSON. -/
def toJson (answers : Answers) : Json :=
  .object (answers.entries.map fun (id, answer) => (id, answer.toJson))

/-- The collected answers that a JSON value holds; of two with one id the later counts. -/
def ofJson (value : Json) : Except Fault Answers := do
  return .ofList (← value.asMembers Answer.ofJson)

end Answers

end Questionnaire
