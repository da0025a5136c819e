import Questionnaire.Interview.Operations

/-!
# Operations in place

A survey that is being answered has one interview, and its operations change that interview in
place: an operation looks at the interview, may refuse, and assigns to one part after the other. A
refusal ends the operation where it stands, and what was assigned before it stays assigned. The
operations are written here as such programs, each statement in its turn.

Nothing in the form of these programs keeps a refused operation from leaving a half changed
interview behind. That none does, and that each leaves what the operation of the same name gives, is
proved of them.
-/

namespace Questionnaire.Interview

/-- A program that changes an interview in place and ends with a result or a refusal. -/
abbrev InPlace (σ α : Type) := EStateM Refusal (Interview σ) α

namespace InPlace

variable {σ : Type}

/-- Looks at the interview and goes on with what is found, or refuses. -/
def check {α : Type} (f : Interview σ → Except Refusal α) : InPlace σ α := do
  match f (← get) with
  | .ok a => return a
  | .error refusal => throw refusal

/-- Records an answer, resolves visibility anew and finds the place of the cursor. -/
def respond (survey : Survey) (id : String) (answer : Answer) : InPlace σ Outcome := do
  let position ← check requireAnswering
  let q ← check fun _ => requireQuestion survey id
  let current := (← get).current? survey
  modify fun i => { i with answers := i.answers.insert q.id answer }
  modify fun i => { i with visibility := .resolve survey.questions i.answers }
  let visible := (← get).visible survey
  let kept := cursorAmong visible current position
  let validation := q.validate (← get).answers
  let advanced := advances survey visible current kept q validation
  let position := if advanced then kept + 1 else kept
  modify fun i => { i with stage := .answering position }
  return ⟨(← get).visibility, validation, advanced⟩

/-- Moves to the next visible question. -/
def next (survey : Survey) : InPlace σ Move := do
  let position ← check requireAnswering
  check (requireValid survey)
  if ((← get).visible survey).length ≤ position + 1 then return .stayed
  modify fun i => { i with stage := .answering (position + 1) }
  return .moved (position + 1)

/-- Moves to the previous visible question. -/
def previous : InPlace σ Move := do
  match ← check requireAnswering with
  | 0 => return .stayed
  | position + 1 =>
    modify fun i => { i with stage := .answering position }
    return .moved position

/-- Draws up the report and submits the survey. -/
def submit (survey : Survey) : InPlace σ Report := do
  let _ ← check requireAnswering
  check (requireValid survey)
  let i ← get
  let report := Report.capture survey.id (i.presented survey) i.answers i.visibility i.locale
  modify fun i => { i with stage := .completed report }
  return report

/-- Changes the language. -/
def setLanguage (survey : Survey) (language : String) : InPlace σ Unit := do
  let _ ← check requireAnswering
  unless survey.settings.supportsLanguage language do
    throw (.unsupportedLanguage language)
  modify fun i => { i with locale := { i.locale with active := language } }

/-- Puts the options of a question in the order in which they are presented this time. -/
def presentOptions [Source σ] (survey : Survey) (id : String) : InPlace σ (List Choice) := do
  let q ← check fun _ => requireQuestion survey id
  let (options, draws) := q.presentedOptions (← get).draws
  modify fun i => { i with draws }
  return options

end InPlace

/-- An operation as a program in place. -/
def perform {σ : Type} [Source σ] (survey : Survey) : Operation → InPlace σ Reply
  | .respond id answer => .responded <$> InPlace.respond survey id answer
  | .next => .moved <$> InPlace.next survey
  | .previous => .moved <$> InPlace.previous
  | .submit => .submitted <$> InPlace.submit survey
  | .setLanguage language => (fun _ => .languageSet) <$> InPlace.setLanguage survey language
  | .presentOptions id => .presented <$> InPlace.presentOptions survey id

end Questionnaire.Interview
