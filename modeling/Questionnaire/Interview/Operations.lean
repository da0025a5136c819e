import Questionnaire.Interview.Basic

/-!
# Operations on interviews

A respondent answers questions, moves to the next or the previous one, changes the language, has
options presented, and submits. Each operation gives the interview after it and a result, or a
refusal and nothing else, so an operation that is refused leaves the interview as it was.

An answer changes what is visible. The cursor then stays with the question it was on; if that one is
hidden, it keeps its place as far as there are visible questions. Moving on and submitting ask that
the current question be answered as it asks; moving back does not.
-/

namespace Questionnaire

/-- What comes of an answer. -/
structure Outcome where
  /-- The visibility that follows from the answers. -/
  visibility : Visibility
  /-- Whether the question answered is answered as it asks. -/
  validation : Checked
  /-- Whether the cursor moved on by itself. -/
  advanced : Bool

/-- What comes of moving the cursor. -/
inductive Move where
  /-- The cursor is at the place now. -/
  | moved (position : Nat)
  /-- There is nothing further in this direction. -/
  | stayed
deriving DecidableEq

namespace Interview

variable {σ : Type}

/-- The place of the cursor, unless the survey has been submitted. -/
def requireAnswering (i : Interview σ) : Except Refusal Nat :=
  match i.stage with
  | .answering position => .ok position
  | .completed _ => .error .completed

/-- The question with the id. -/
def requireQuestion (survey : Survey) (id : String) : Except Refusal Question :=
  match survey.question? id with
  | some q => .ok q
  | none => .error (.unknownQuestion id)

/-- Refused unless the current question, if there is one, is answered as it asks. -/
def requireValid (survey : Survey) (i : Interview σ) : Except Refusal Unit :=
  match i.current? survey with
  | none => .ok ()
  | some q =>
    match q.validate i.answers with
    | .ok _ => .ok ()
    | .error violation => .error (.invalid q.id violation)

/-- The place of the cursor among the questions now visible: that of the question it was on if that
is among them, else the old one as far as there are questions. -/
def cursorAmong (visible : List Question) (current : Option Question) (position : Nat) : Nat :=
  let kept := match current with
    | some q => (visible.findIdx? fun other => other.id == q.id).getD position
    | none => position
  min kept (visible.length - 1)

/-- Whether an answer moves the cursor on: the survey says so, the answer is valid, and it is to the
question under the cursor, which is visible and not the last. -/
def advances (survey : Survey) (visible : List Question) (current : Option Question)
    (position : Nat) (answered : Question) (validation : Checked) : Bool :=
  decide (survey.settings.navigation = .autoAdvance) &&
    (current.any fun q => q.id == answered.id) &&
    (match validation with
      | .ok _ => true
      | .error _ => false) &&
    (visible[position]?.any fun q => q.id == answered.id) &&
    decide (position + 1 < visible.length)

/-- Records an answer and resolves visibility anew. -/
def respond (survey : Survey) (i : Interview σ) (id : String) (answer : Answer) :
    Except Refusal (Interview σ × Outcome) := do
  let position ← i.requireAnswering
  let q ← requireQuestion survey id
  let answers := i.answers.insert q.id answer
  let visibility := Visibility.resolve survey.questions answers
  let recorded := { i with answers, visibility }
  let visible := recorded.visible survey
  let kept := cursorAmong visible (i.current? survey) position
  let validation := q.validate answers
  let advanced := advances survey visible (i.current? survey) kept q validation
  let position := if advanced then kept + 1 else kept
  return ({ recorded with stage := .answering position }, ⟨visibility, validation, advanced⟩)

/-- Moves to the next visible question. -/
def next (survey : Survey) (i : Interview σ) : Except Refusal (Interview σ × Move) := do
  let position ← i.requireAnswering
  i.requireValid survey
  if (i.visible survey).length ≤ position + 1 then return (i, .stayed)
  else return ({ i with stage := .answering (position + 1) }, .moved (position + 1))

/-- Moves to the previous visible question. -/
def previous (i : Interview σ) : Except Refusal (Interview σ × Move) := do
  match ← i.requireAnswering with
  | 0 => return (i, .stayed)
  | position + 1 => return ({ i with stage := .answering position }, .moved position)

/-- Submits the survey and draws up the report. -/
def submit (survey : Survey) (i : Interview σ) : Except Refusal (Interview σ × Report) := do
  let _ ← i.requireAnswering
  i.requireValid survey
  let report := Report.capture survey.id (i.presented survey) i.answers i.visibility i.locale
  return ({ i with stage := .completed report }, report)

/-- Changes the language. -/
def setLanguage (survey : Survey) (i : Interview σ) (language : String) :
    Except Refusal (Interview σ) := do
  let _ ← i.requireAnswering
  if survey.settings.supportsLanguage language then
    return { i with locale := { i.locale with active := language } }
  else throw (.unsupportedLanguage language)

/-- The options of a question as they are presented this time. -/
def presentOptions [Source σ] (survey : Survey) (i : Interview σ) (id : String) :
    Except Refusal (Interview σ × List Choice) := do
  let q ← requireQuestion survey id
  let (options, draws) := q.presentedOptions i.draws
  return ({ i with draws }, options)

end Interview

/-! ## Histories -/

/-- An operation of a respondent. -/
inductive Operation where
  /-- A question is answered. -/
  | respond (id : String) (answer : Answer)
  /-- On to the next question. -/
  | next
  /-- Back to the previous question. -/
  | previous
  /-- The survey is submitted. -/
  | submit
  /-- The language is changed. -/
  | setLanguage (language : String)
  /-- The options of a question are presented. -/
  | presentOptions (id : String)
deriving DecidableEq

/-- What a respondent gets back. -/
inductive Reply where
  /-- An answer was recorded. -/
  | responded (outcome : Outcome)
  /-- The cursor was to be moved. -/
  | moved (move : Move)
  /-- The survey was submitted. -/
  | submitted (report : Report)
  /-- The language was changed. -/
  | languageSet
  /-- Options were presented. -/
  | presented (options : List Choice)
  /-- The operation was refused. -/
  | refused (refusal : Refusal)

namespace Interview

variable {σ : Type}

/-- The interview after an operation that gave the result, and the reply. -/
def settle {α : Type} (i : Interview σ) (reply : α → Reply) :
    Except Refusal (Interview σ × α) → Interview σ × Reply
  | .ok (after, result) => (after, reply result)
  | .error refusal => (i, .refused refusal)

/-- One operation: the interview after it, and the reply. -/
def step [Source σ] (survey : Survey) (i : Interview σ) : Operation → Interview σ × Reply
  | .respond id answer => i.settle .responded (i.respond survey id answer)
  | .next => i.settle .moved (i.next survey)
  | .previous => i.settle .moved i.previous
  | .submit => i.settle .submitted (i.submit survey)
  | .setLanguage language =>
    i.settle (fun _ => .languageSet) ((i.setLanguage survey language).map (·, ()))
  | .presentOptions id => i.settle .presented (i.presentOptions survey id)

/-- The interview after a history of operations. -/
def run [Source σ] (survey : Survey) (i : Interview σ) (history : List Operation) : Interview σ :=
  history.foldl (fun i operation => (i.step survey operation).1) i

/-- The replies to a history of operations. -/
def replies [Source σ] (survey : Survey) (i : Interview σ) : List Operation → List Reply
  | [] => []
  | operation :: rest =>
    let (after, reply) := i.step survey operation
    reply :: after.replies survey rest

end Interview

end Questionnaire
