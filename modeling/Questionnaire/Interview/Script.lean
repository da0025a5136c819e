import Questionnaire.Interview.Operations

/-!
# Scripts

A script is a table of answers by question id that takes an interview to its end as a respondent
would: each question that comes up is answered from the table or passed over, and the survey is
submitted. Questions that never come up are never answered. The walk stops at the first question
that is required and not in the table, or whose answer is not what it asks for.
-/

namespace Questionnaire

/-- Answers prepared for the questions of a survey. -/
structure Script where
  /-- The answers by question id. -/
  answers : Answers
deriving DecidableEq

/-- Why a script does not get to the end. -/
inductive Script.Failure where
  /-- A required question is not in the table. -/
  | missing (question : String)
  /-- The answer in the table is not what its question asks for. -/
  | rejected (question : String) (violation : Violation)
  /-- The interview refused an operation. -/
  | refused (refusal : Refusal)
deriving DecidableEq

namespace Script

/-- What is said of a failure. -/
def Failure.message : Failure → String
  | .missing question => "No scripted response for required question '" ++ question ++ "'"
  | .rejected question violation =>
    "Scripted response for '" ++ question ++ "' was rejected: " ++ violation.message
  | .refused refusal => refusal.message

/-- The empty script. -/
def empty : Script := ⟨.empty⟩

/-- The script with an answer for a question. -/
def withAnswer (script : Script) (id : String) (answer : Answer) : Script :=
  ⟨script.answers.insert id answer⟩

/-- The script with a cell of a grid for a question; earlier cells stay, and an answer of another
shape gives way. -/
def withCell (script : Script) (id row column : String) : Script :=
  let cells := ((script.answers.get? id).bind Answer.asGrid?).getD .empty
  script.withAnswer id (.grid (cells.insert row column))

/-! ## Walking through an interview -/

variable {σ : Type}

/-- What comes of one turn. -/
inductive Turn where
  /-- There is more to answer. -/
  | goesOn
  /-- The last question is done, or none is visible. -/
  | over
  /-- The script does not get further. -/
  | failed (failure : Failure)
deriving DecidableEq

/-- The turn that moves on to the next question. -/
def moveOn (survey : Survey) (i : Interview σ) : Interview σ × Turn :=
  match i.next survey with
  | .ok (after, .moved _) => (after, .goesOn)
  | .ok (after, .stayed) => (after, .over)
  | .error refusal => (i, .failed (.refused refusal))

/-- One turn: the current question is answered or passed over, and the cursor moves on. -/
def turn (script : Script) (survey : Survey) (i : Interview σ) : Interview σ × Turn :=
  match i.current? survey with
  | none => (i, .over)
  | some q =>
    if q.isSectionBreak then moveOn survey i
    else
      match script.answers.get? q.id with
      | none => if q.required then (i, .failed (.missing q.id)) else moveOn survey i
      | some answer =>
        match i.respond survey q.id answer with
        | .error refusal => (i, .failed (.refused refusal))
        | .ok (after, outcome) =>
          match outcome.validation with
          | .error violation => (after, .failed (.rejected q.id violation))
          | .ok _ => if outcome.advanced then (after, .goesOn) else moveOn survey after

/-- At most the given number of turns: the interview after the last and the failure, if it was one;
nothing if there is more to answer after that many. -/
def walk? (script : Script) (survey : Survey) :
    Nat → Interview σ → Option (Interview σ × Option Failure)
  | 0, _ => none
  | turns + 1, i =>
    match script.turn survey i with
    | (after, .goesOn) => script.walk? survey turns after
    | (after, .over) => some (after, none)
    | (after, .failed failure) => some (after, some failure)

/-- How many turns a walk is given. -/
def turnLimit (survey : Survey) : Nat :=
  (survey.questions.length + 1) * (survey.questions.length + 1) + 1

/-- Walks through the interview and submits it: the interview after that, and the report or the
failure; nothing if the walk does not end within its turns. -/
def complete? (script : Script) (survey : Survey) (i : Interview σ) :
    Option (Interview σ × Except Failure Report) :=
  match script.walk? survey (turnLimit survey) i with
  | none => none
  | some (after, some failure) => some (after, .error failure)
  | some (after, none) =>
    match after.submit survey with
    | .ok (submitted, report) => some (submitted, .ok report)
    | .error refusal => some (after, .error (.refused refusal))

end Script

end Questionnaire
