import Questionnaire.Answer.Basic
import Questionnaire.Question.Basic
import Questionnaire.Violation
import Questionnaire.Visibility

/-!
# Validation

An answer is checked in two respects. Whether there is one matters only for a required question;
whether one that is there fits the question matters always. `Question.check` gives the first
violation in a fixed order of checks, and lists, files and cells are gone through in their own
order.
-/

namespace Questionnaire

/-- The outcome of a check: nothing, or the violation found. -/
abbrev Checked := Except Violation Unit

namespace Checked

/-- The outcome where there is nothing to check. -/
def unanswered (required : Bool) : Checked :=
  if required then .error .required else .ok ()

/-- A violation if the condition is met. -/
def refuse (condition : Bool) (violation : Violation) : Checked :=
  if condition then .error violation else .ok ()

/-- A violation if there is a bound and it is violated. -/
def bounded {β : Type} (bound : Option β) (violated : β → Bool) (violation : β → Violation) :
    Checked :=
  match bound with
  | some b => refuse (violated b) (violation b)
  | none => .ok ()

/-- The first item that some condition is met by, refused. -/
def refuseFirst {β : Type} (items : List β) (refused : β → Bool) (violation : β → Violation) :
    Checked :=
  match items.find? refused with
  | some item => .error (violation item)
  | none => .ok ()

end Checked

namespace Answer

/-- The view of an answer that a question needs, or the violation that it has another shape. -/
def expect {α : Type} (answer : Answer) (expected : String) (view : Option α) :
    Except Violation α :=
  match view with
  | some a => .ok a
  | none => .error (.typeMismatch expected answer.shape)

end Answer

/-! ## Picking options -/

/-- Checks the pick of one option. -/
def PickOne.check (pick : PickOne) (required : Bool) (answer : Answer) : Checked := do
  let picked ← answer.expect "Text" answer.scalarText?
  if Text.isBlank picked then Checked.unanswered required
  else Checked.refuse (!pick.allowOther && !isChoiceId pick.options picked) (.unknownOption picked)

/-- Checks the pick of any number of options. The bounds count the entries of the list. -/
def PickMany.check (pick : PickMany) (required : Bool) (answer : Answer) : Checked := do
  let selected ← answer.expect "List" answer.asList?
  if selected.isEmpty then Checked.unanswered required
  else
    Checked.bounded pick.minSelections (fun min => decide (selected.length < min.toNat))
      fun min => .tooFewSelections min selected.length
    Checked.bounded pick.maxSelections (fun max => decide (max.toNat < selected.length))
      fun max => .tooManySelections max selected.length
    Checked.refuseFirst selected (fun id => !pick.allowOther && !isChoiceId pick.options id)
      .unknownOption

/-! ## Values -/

/-- Checks a point on a scale. -/
def RatingScale.check (scale : RatingScale) (required : Bool) (answer : Answer) : Checked := do
  if answer.isEmpty then Checked.unanswered required
  else
    let rating ← answer.expect "Number" answer.asNumber?
    let onScale := match rating.whole? with
      | some n => decide (1 ≤ n) && decide (n ≤ scale.points.toNat)
      | none => false
    Checked.refuse (!onScale) (.outOfScale scale.points)

/-- Checks a text. -/
def TextEntry.check (entry : TextEntry) (required : Bool) (answer : Answer) : Checked := do
  let text ← answer.expect "Text" answer.scalarText?
  if Text.isBlank text then Checked.unanswered required
  else
    Checked.bounded entry.maxLength (fun max => decide (max.toNat < text.length)) fun max =>
      .tooLong max text.length

/-- Checks a number. An infinity or NaN is none, as a bound it is compared like any other. -/
def NumberEntry.check (entry : NumberEntry) (required : Bool) (answer : Answer) : Checked := do
  let text ← answer.expect "Text" answer.scalarText?
  if Text.isBlank text then Checked.unanswered required
  else
    match answer.asNumber?.filter Number.isFinite with
    | none => .error (.notANumber text)
    | some value =>
      Checked.bounded entry.min (fun min => decide (value < min)) (.belowMinimum value)
      Checked.bounded entry.max (fun max => decide (max < value)) (.aboveMaximum value)

/-- Checks a date. -/
def DateEntry.check (entry : DateEntry) (required : Bool) (answer : Answer) : Checked := do
  let text ← answer.expect "Text" answer.asText?
  if Text.isBlank text then Checked.unanswered required
  else
    match Date.ofAnswer? (Text.trim text) with
    | none => .error (.notADate text)
    | some date =>
      Checked.bounded entry.min (fun min => decide (date < min)) (.dateBeforeMinimum date)
      Checked.bounded entry.max (fun max => decide (max < date)) (.dateAfterMaximum date)

/-! ## Ranking -/

/-- Checks the entries of a ranking in order, given those already gone through. -/
def Ranking.checkEntries (options : List Choice) (seen : List String) : List String → Checked
  | [] => .ok ()
  | entry :: rest =>
    if !isChoiceId options entry then .error (.unknownOption entry)
    else if seen.contains entry then .error (.duplicateRanking entry)
    else checkEntries options (entry :: seen) rest

/-- Checks an order of options; not all need be in it. -/
def Ranking.check (ranking : Ranking) (required : Bool) (answer : Answer) : Checked := do
  let ranked ← answer.expect "List" answer.asList?
  if ranked.isEmpty then Checked.unanswered required
  else Ranking.checkEntries ranking.options [] ranked

/-! ## Files -/

/-- Whether a file is of an accepted type: by the ending of its name where the type starts with a
point, by the first part of its media type where the type ends in `/*`, and else by the whole media
type. Letters of ASCII match in either case. -/
def File.isOfType (file : File) (accepted : String) : Bool :=
  let accepted := (Text.asciiLower (Text.trim accepted)).toList
  if accepted.head? = some '.' then
    accepted.isSuffixOf (Text.asciiLower file.name).toList
  else
    match file.mediaType with
    | none => false
    | some mediaType =>
      let media := (Text.asciiLower mediaType).toList
      if ['/', '*'].isSuffixOf accepted then
        media.takeWhile (· ≠ '/') == accepted.take (accepted.length - 2)
      else media == accepted

/-- Checks one file. -/
def Upload.checkFile (upload : Upload) (file : File) : Checked := do
  Checked.bounded upload.maxFileSize (fun max => decide (max < file.size))
    (.fileTooLarge file.name file.size)
  Checked.refuse
    (!upload.allowedTypes.isEmpty && !upload.allowedTypes.any file.isOfType)
    (.fileTypeNotAllowed file.name)

/-- Checks files in order. -/
def Upload.checkFiles (upload : Upload) : List File → Checked
  | [] => .ok ()
  | file :: rest => do
    upload.checkFile file
    upload.checkFiles rest

/-- Checks files. -/
def Upload.check (upload : Upload) (required : Bool) (answer : Answer) : Checked := do
  let files ← answer.expect "Files" answer.asFiles?
  if files.isEmpty then Checked.unanswered required
  else
    Checked.bounded upload.maxFiles (fun max => decide (max.toNat < files.length)) fun max =>
      .tooManyFiles max files.length
    upload.checkFiles files

/-! ## Grids -/

/-- Whether a cell says something although its row or column is none of the grid. -/
def Grid.isUnknownCell (grid : Grid) (cell : String × String) : Bool :=
  !cell.2.isEmpty && !(isChoiceId grid.rows cell.1 && isChoiceId grid.columns cell.2)

/-- Whether a row has a cell that says something. -/
def Grid.isAnsweredRow (cells : IdMap String) (row : Choice) : Bool :=
  (cells.get? row.id).any fun column => !column.isEmpty

/-- The ids of the rows without an answer, in declared order. -/
def Grid.missingRows (grid : Grid) (cells : IdMap String) : List String :=
  (grid.rows.filter fun row => !Grid.isAnsweredRow cells row).map Choice.id

/-- Checks the cells of a grid. -/
def Grid.check (grid : Grid) (required : Bool) (answer : Answer) : Checked := do
  let cells ← answer.expect "Matrix" answer.asGrid?
  Checked.refuseFirst cells.entries grid.isUnknownCell fun cell => .unknownMatrixCell cell.1 cell.2
  if required then
    let missing := grid.missingRows cells
    if missing.isEmpty then .ok ()
    else if missing.length = grid.rows.length then .error .required
    else .error (.incompleteMatrix missing)
  else .ok ()

/-! ## Questions -/

/-- Checks an answer against the body of a question. -/
def Body.check (body : Body) (required : Bool) (answer : Answer) : Checked :=
  match body with
  | .multipleChoice pick | .dropdown pick => pick.check required answer
  | .checkboxGroup pick => pick.check required answer
  | .likertScale scale => scale.check required answer
  | .openText entry => entry.check required answer
  | .matrix grid => grid.check required answer
  | .numeric entry => entry.check required answer
  | .date entry => entry.check required answer
  | .ranking order => order.check required answer
  | .fileUpload upload => upload.check required answer
  | .sectionBreak => .ok ()

namespace Question

/-- Checks the answer to a question, or that there is none. A section break takes no answer and
minds none. -/
def check (q : Question) (answer : Option Answer) : Checked :=
  match answer with
  | some answer => q.body.check q.required answer
  | none => Checked.unanswered (q.required && !q.isSectionBreak)

/-- Checks a question against the answers collected. -/
def validate (q : Question) (answers : Answers) : Checked :=
  q.check (answers.get? q.id)

/-- Whether a question is answered as it asks. -/
def isValid (q : Question) (answers : Answers) : Bool :=
  match q.validate answers with
  | .ok _ => true
  | .error _ => false

/-- The violation of a question, with its id. -/
def violation? (answers : Answers) (q : Question) : Option (String × Violation) :=
  match q.validate answers with
  | .ok _ => none
  | .error violation => some (q.id, violation)

end Question

/-- The violations of the visible questions by question id; of two with one id the later counts. -/
def violations (questions : List Question) (answers : Answers) (visibility : Visibility) :
    IdMap Violation :=
  .ofList ((questions.filter fun q => visibility.admits q.id).filterMap
    (Question.violation? answers))

end Questionnaire
