import Questionnaire.IdMap
import Questionnaire.Number.Style

/-!
# Answers

An answer is a number, a text, a list of texts, a list of files or a grid of cells. Which of them a
question takes is for its validation to say; here are the views that an answer admits of itself. The
empty list of files cannot be told from the empty list of texts once written down, so the latter
counts as the former.
-/

namespace Questionnaire

/-- What is recorded of a file handed in; never its content. -/
structure File where
  /-- The name of the file. -/
  name : String
  /-- The size in bytes. -/
  size : UInt64
  /-- The media type, where it is known. -/
  mediaType : Option String := none
deriving DecidableEq

/-- The answer to one question. -/
inductive Answer where
  /-- A number. -/
  | number (value : Number)
  /-- A text: free, or the id of an option, or a date. -/
  | text (value : String)
  /-- Ids of options, selected or in order of rank. -/
  | list (items : List String)
  /-- Files handed in. -/
  | files (uploads : List File)
  /-- The id of a column for each id of a row. -/
  | grid (cells : IdMap String)
deriving DecidableEq

namespace Answer

/-- The name of the shape of an answer, for messages. -/
def shape : Answer → String
  | .number _ => "Number"
  | .text _ => "Text"
  | .list _ => "List"
  | .files _ => "Files"
  | .grid _ => "Matrix"

/-- The answer as a text. -/
def asText? : Answer → Option String
  | .text s => some s
  | _ => none

/-- The answer as a number, if it is or reads as one. -/
def asNumber? : Answer → Option Number
  | .number x => some x
  | .text s => (FiniteNumber.ofText? s).map .finite
  | _ => none

/-- The answer as a list of ids. -/
def asList? : Answer → Option (List String)
  | .list items => some items
  | _ => none

/-- The answer as a list of files. -/
def asFiles? : Answer → Option (List File)
  | .files uploads => some uploads
  | .list [] => some []
  | _ => none

/-- The answer as a grid of cells. -/
def asGrid? : Answer → Option (IdMap String)
  | .grid cells => some cells
  | _ => none

/-- The text of an answer that is a single value, which rules compare. -/
def scalarText? : Answer → Option String
  | .text s => some s
  | .number x => some x.toProse
  | _ => none

/-- Whether an answer says nothing: a text of blanks alone, or no item, file or cell. -/
def isEmpty : Answer → Bool
  | .number _ => false
  | .text s => Text.isBlank s
  | .list items => items.isEmpty
  | .files uploads => uploads.isEmpty
  | .grid cells => cells.isEmpty

end Answer

/-! ## Collected answers -/

/-- The answers collected so far, by question id. -/
abbrev Answers := IdMap Answer

/-- Why an answer cannot be had in the shape asked for. -/
inductive Answers.Failure where
  /-- The question has no answer. -/
  | missing (id : String)
  /-- The answer has another shape. -/
  | mismatch (id expected actual : String)
deriving DecidableEq

namespace Answers

/-- What is said of a failure. -/
def Failure.message : Failure → String
  | .missing id => "Missing response for question: " ++ id
  | .mismatch id expected actual =>
    "Type mismatch for question '" ++ id ++ "': expected " ++ expected ++ ", got " ++ actual

/-- The view of the answer to a question in an expected shape. -/
def view {α : Type} (answers : Answers) (id expected : String) (look : Answer → Option α) :
    Except Failure α :=
  match answers.get? id with
  | none => .error (.missing id)
  | some answer =>
    match look answer with
    | some a => .ok a
    | none => .error (.mismatch id expected answer.shape)

/-- The answer to a question as a text. -/
def getText (answers : Answers) (id : String) : Except Failure String :=
  answers.view id "Text" Answer.asText?

/-- The answer to a question as a number; a text that reads as one is accepted. -/
def getNumber (answers : Answers) (id : String) : Except Failure Number :=
  answers.view id "Number" Answer.asNumber?

/-- The answer to a question as a list of ids. -/
def getList (answers : Answers) (id : String) : Except Failure (List String) :=
  answers.view id "List" Answer.asList?

/-- The answer to a question as files. -/
def getFiles (answers : Answers) (id : String) : Except Failure (List File) :=
  answers.view id "Files" Answer.asFiles?

/-- The answer to a question as a grid of cells. -/
def getGrid (answers : Answers) (id : String) : Except Failure (IdMap String) :=
  answers.view id "Matrix" Answer.asGrid?

/-- Whether a question has an answer that says something. -/
def hasValue (answers : Answers) (id : String) : Bool :=
  (answers.get? id).any fun answer => !answer.isEmpty

end Answers

end Questionnaire
