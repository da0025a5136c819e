import Questionnaire.Random.Keystream
import Questionnaire.Report
import Questionnaire.Shuffle
import Questionnaire.Survey.Basic
import Questionnaire.Validation

/-!
# Interviews

An interview is one respondent's way through a survey. It holds the order in which the questions are
presented, the answers so far with the visibility that follows from them, the respondent's locale,
the source of further shuffles, and its stage: answering at a place among the visible questions, or
completed with a report. The survey itself never changes and is not part of the state.

Shuffles may draw from any `Source`. Where none is named, it is a keystream.
-/

namespace Questionnaire

/-- How far an interview has come. -/
inductive Stage where
  /-- The question at this place among the visible ones is being answered. -/
  | answering (position : Nat)
  /-- The survey has been submitted. -/
  | completed (report : Report)
deriving DecidableEq

/-- The state of an interview. -/
structure Interview (σ : Type := Keystream) where
  /-- The places of the questions in authored order, in the order in which they are presented. -/
  order : List Nat
  /-- The answers given, those of hidden questions included. -/
  answers : Answers
  /-- The visibility of the questions under these answers. -/
  visibility : Visibility
  /-- How far the interview has come. -/
  stage : Stage
  /-- The languages in which texts are shown. -/
  locale : Locale
  /-- Where further shuffles draw from. -/
  draws : σ
deriving DecidableEq

/-- Why an operation on an interview is refused. -/
inductive Refusal where
  /-- The survey has been submitted. -/
  | completed
  /-- No question has the id. -/
  | unknownQuestion (id : String)
  /-- The survey does not have the language. -/
  | unsupportedLanguage (language : String)
  /-- The current question is not answered as it asks. -/
  | invalid (question : String) (violation : Violation)
deriving DecidableEq

/-- What is said of a refusal. -/
def Refusal.message : Refusal → String
  | .completed => "The survey has already been submitted"
  | .unknownQuestion id => "Unknown question '" ++ id ++ "'"
  | .unsupportedLanguage language => "Language '" ++ language ++ "' is not enabled for this survey"
  | .invalid question violation =>
    "Question '" ++ question ++ "' is not answered correctly: " ++ violation.message

namespace Interview

variable {σ : Type}

/-- The interview at its start: questions in their order of presentation, no answers, the first
visible question, in a language that the survey has or in its default one. -/
def start [Source σ] (survey : Survey) (draws : σ) (language : Option String) :
    Except Refusal (Interview σ) :=
  let settings := survey.settings
  let active := language.getD settings.defaultLanguage
  if settings.supportsLanguage active then
    let (order, draws) :=
      presentationOrder survey.questions settings.randomizeQuestions settings.respectSections draws
    .ok {
      order
      answers := .empty
      visibility := .resolve survey.questions .empty
      stage := .answering 0
      locale := { settings.locale with active }
      draws }
  else .error (.unsupportedLanguage active)

/-- All questions in their order of presentation. -/
def presented (survey : Survey) (i : Interview σ) : List Question :=
  i.order.filterMap fun place => survey.questions[place]?

/-- The visible questions in their order of presentation. -/
def visible (survey : Survey) (i : Interview σ) : List Question :=
  (i.presented survey).filter fun q => i.visibility.admits q.id

/-- The place of the current question among the visible ones, until the survey is submitted. -/
def position? (i : Interview σ) : Option Nat :=
  match i.stage with
  | .answering position => some position
  | .completed _ => none

/-- The report, once the survey is submitted. -/
def report? (i : Interview σ) : Option Report :=
  match i.stage with
  | .answering _ => none
  | .completed report => some report

/-- The question being answered. -/
def current? (survey : Survey) (i : Interview σ) : Option Question :=
  i.position?.bind fun position => (i.visible survey)[position]?

/-- Whether a question is visible; an unknown one is not. -/
def isVisible (i : Interview σ) (id : String) : Bool :=
  (i.visibility.get? id).getD false

/-- The percentage of the way done, for a progress bar. -/
def progress (survey : Survey) (i : Interview σ) : Nat :=
  match i.stage with
  | .completed _ => 100
  | .answering position =>
    let count := (i.visible survey).length
    if count = 0 then 0 else min 100 (FiniteNumber.percent (position + 1) count)

/-- The violations of the visible questions by question id. -/
def violations (survey : Survey) (i : Interview σ) : IdMap Violation :=
  Questionnaire.violations (i.visible survey) i.answers i.visibility

end Interview

end Questionnaire
