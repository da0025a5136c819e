import Questionnaire.Answer.Json
import Questionnaire.Json.Writer
import Questionnaire.Question.Json
import Questionnaire.Visibility

/-!
# Reports

When a respondent submits, a report is drawn up: an entry for each question that is visible and has
an answer that says something, in the order of presentation. An entry keeps the answer as it was
given and adds how it reads, with the ids of options, rows and columns replaced by their texts.
-/

namespace Questionnaire

open Json (Fault)

/-- What is reported of one question. -/
structure Report.Entry where
  /-- The id of the question. -/
  questionId : String
  /-- The kind of the question. -/
  kind : Kind
  /-- What was asked, in the language of the report. -/
  text : String
  /-- The answer as it was given. -/
  answer : Answer
  /-- The answer as it reads. -/
  display : String
deriving DecidableEq

/-- The answers of a submitted survey. -/
structure Report where
  /-- The id of the survey. -/
  surveyId : String
  /-- The language in which it was submitted. -/
  language : String
  /-- What is reported, in the order of presentation. -/
  entries : List Report.Entry
deriving DecidableEq

/-! ## How answers read -/

namespace Locale

/-- The text of the choice with the id, or the id itself if no choice has it. -/
def choiceText (locale : Locale) (choices : List Choice) (id : String) : String :=
  match choices.find? fun choice => choice.id == id with
  | some choice => locale.resolve choice.text
  | none => id

/-- A row of a grid with its column, if it is answered. -/
def rowText? (locale : Locale) (grid : Grid) (cells : IdMap String) (row : Choice) :
    Option String :=
  match cells.get? row.id with
  | some column =>
    if column.isEmpty then none
    else some (locale.resolve row.text ++ ": " ++ locale.choiceText grid.columns column)
  | none => none

/-- The answered rows of a grid, each with its column. -/
def gridText (locale : Locale) (grid : Grid) (cells : IdMap String) : String :=
  String.intercalate "; " (grid.rows.filterMap (locale.rowText? grid cells))

/-- Texts with their ranks in front. -/
def rankedTexts (rank : Nat) : List String → List String
  | [] => []
  | text :: rest => (toString rank ++ ". " ++ text) :: rankedTexts (rank + 1) rest

/-- An answer as it reads where its question has no way of its own. -/
def plainText (locale : Locale) (options : List Choice) : Answer → String
  | .list items => String.intercalate ", " (items.map (locale.choiceText options))
  | .files uploads => String.intercalate ", " (uploads.map File.name)
  | .text s => locale.choiceText options s
  | .number x => x.toProse
  | .grid cells =>
    String.intercalate "; " (cells.entries.map fun (row, column) => row ++ ": " ++ column)

end Locale

/-- How an answer to a question reads. -/
def Question.display (q : Question) (answer : Answer) (locale : Locale) : String :=
  match q.body, answer with
  | .matrix grid, .grid cells => locale.gridText grid cells
  | .ranking order, .list items =>
    String.intercalate ", "
      (Locale.rankedTexts 1 (items.map (locale.choiceText order.options)))
  | .likertScale scale, answer =>
    match answer.scalarText? with
    | some rating => rating ++ " / " ++ toString scale.points.toNat
    | none => ""
  | body, answer => locale.plainText body.options answer

/-! ## Drawing up a report -/

namespace Report

/-- What is reported of a question, unless it is a section break, hidden, or not answered. -/
def reported? (answers : Answers) (visibility : Visibility) (locale : Locale) (q : Question) :
    Option Entry :=
  if q.isSectionBreak || !visibility.admits q.id then none
  else
    match answers.get? q.id with
    | none => none
    | some answer =>
      if answer.isEmpty then none
      else some ⟨q.id, q.kind, locale.resolve q.text, answer, q.display answer locale⟩

/-- An entry is on a question that is visible and no section break, and it has the answer to it,
which says something. -/
theorem reported?_eq_some_iff {answers : Answers} {visibility : Visibility} {locale : Locale}
    {q : Question} {entry : Entry} :
    reported? answers visibility locale q = some entry ↔
      q.isSectionBreak = false ∧ visibility.admits q.id = true ∧
        ∃ answer, answers.get? q.id = some answer ∧ answer.isEmpty = false ∧
          ⟨q.id, q.kind, locale.resolve q.text, answer, q.display answer locale⟩ = entry := by
  unfold reported?
  cases q.isSectionBreak with
  | true => simp
  | false =>
    cases visibility.admits q.id with
    | false => simp
    | true =>
      cases answers.get? q.id with
      | none => simp
      | some answer => cases hempty : answer.isEmpty <;> simp [hempty]

/-- The report on questions in their order of presentation. -/
def capture (surveyId : String) (presented : List Question) (answers : Answers)
    (visibility : Visibility) (locale : Locale) : Report :=
  ⟨surveyId, locale.active, presented.filterMap (reported? answers visibility locale)⟩

/-- The first entry of a question. -/
def get? (report : Report) (id : String) : Option Entry :=
  report.entries.find? fun entry => entry.questionId == id

/-! ## Reports as JSON -/

/-- An entry as JSON. -/
def Entry.toJson (entry : Entry) : Json :=
  .object
    [("questionId", .text entry.questionId), ("questionType", .text entry.kind.tag),
     ("text", .text entry.text), ("answer", entry.answer.toJson),
     ("display", .text entry.display)]

/-- The entry that a JSON value holds. -/
def Entry.ofJson (value : Json) : Except Fault Entry := do
  let fields ← value.asRecord ["questionId", "questionType", "text", "answer", "display"] .malformed
  return {
    questionId := ← fields.required "questionId" Json.asText
    kind := ← fields.required "questionType" (Json.asOneOf Kind.spellings)
    text := ← fields.required "text" Json.asText
    answer := ← fields.required "answer" Answer.ofJson
    display := ← fields.required "display" Json.asText }

/-- A report as JSON. -/
def toJson (report : Report) : Json :=
  .object
    [("surveyId", .text report.surveyId), ("language", .text report.language),
     ("entries", Json.ofList Entry.toJson report.entries)]

/-- The report that a JSON value holds. -/
def ofJson (value : Json) : Except Fault Report := do
  let fields ← value.asRecord ["surveyId", "language", "entries"] .malformed
  return {
    surveyId := ← fields.required "surveyId" Json.asText
    language := ← fields.required "language" Json.asText
    entries := ← fields.required "entries" (Json.asList Entry.ofJson) }

/-- The report as a text of several lines. -/
def save (report : Report) : String :=
  report.toJson.indented

end Report

end Questionnaire
