import Questionnaire.Question.Json
import Questionnaire.Settings
import Questionnaire.Json.Reader
import Questionnaire.Json.Writer

/-!
# Surveys

A survey is a list of questions in authored order with an id, a title, a description and settings.
It is data and is never changed by being answered. `Survey.load` reads one from JSON and refuses
those in which two questions share an id, because their answers could not be told apart.
-/

namespace Questionnaire

open Json (Fault)

/-- A survey. -/
structure Survey where
  /-- What the survey is known by. -/
  id : String
  /-- The title. -/
  title : Wording := .empty
  /-- What is said under the title. -/
  description : Wording := .empty
  /-- Languages, looks and the way through the questions. -/
  settings : Settings := {}
  /-- The questions in authored order, section breaks among them. -/
  questions : List Question := []
deriving DecidableEq

/-- Why a survey cannot be loaded. -/
inductive Survey.Failure where
  /-- The text is no survey. -/
  | unreadable (fault : Fault)
  /-- Two questions share the id. -/
  | duplicateId (id : String)
deriving DecidableEq

namespace Survey

/-- What is said of questions that share an id. -/
def duplicateMessage (id : String) : String :=
  "Duplicate question id: " ++ id

/-- The first question with the id. -/
def question? (survey : Survey) (id : String) : Option Question :=
  survey.questions.find? fun q => q.id == id

/-! ## Surveys as JSON -/

/-- A survey as JSON. -/
def toJson (survey : Survey) : Json :=
  .object
    [("id", .text survey.id), ("title", survey.title.toJson),
     ("description", survey.description.toJson), ("settings", survey.settings.toJson),
     ("questions", Json.ofList Question.toJson survey.questions)]

/-- The survey that a JSON value holds, whatever the ids of its questions. -/
def ofJson (value : Json) : Except Fault Survey := do
  let fields ← value.asRecord ["id", "title", "description", "settings", "questions"] .malformed
  return {
    id := ← fields.required "id" Json.asText
    title := ← fields.defaulted "title" .empty Wording.ofJson
    description := ← fields.defaulted "description" .empty Wording.ofJson
    settings := ← fields.defaulted "settings" {} Settings.ofJson
    questions := ← fields.defaulted "questions" [] (Json.asList Question.ofJson) }

/-- The first id that occurred before, given the ids already seen. -/
def firstRepetition? (seen : List String) : List Question → Option String
  | [] => none
  | q :: rest =>
    if seen.contains q.id then some q.id else firstRepetition? (q.id :: seen) rest

/-- The survey itself, if no two of its questions share an id. -/
def checkIds (survey : Survey) : Except Failure Survey :=
  match firstRepetition? [] survey.questions with
  | some id => .error (.duplicateId id)
  | none => .ok survey

/-- The survey that a JSON value holds, if no two of its questions share an id. -/
def fromJson (value : Json) : Except Failure Survey :=
  match ofJson value with
  | .ok survey => survey.checkIds
  | .error fault => .error (.unreadable fault)

/-- The survey that a text holds, if no two of its questions share an id. -/
def load (text : String) : Except Failure Survey :=
  match Json.parse? text with
  | some value => fromJson value
  | none => .error (.unreadable .malformed)

/-- The survey as a text on one line. -/
def save (survey : Survey) : String :=
  survey.toJson.compact

end Survey

end Questionnaire
