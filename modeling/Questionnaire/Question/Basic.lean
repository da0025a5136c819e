import Questionnaire.Calendar.Date
import Questionnaire.Number.Basic
import Questionnaire.Rule
import Questionnaire.Wording

/-!
# Questions

A question has an id, a wording, and a *body* that says how it is answered: by picking options, on a
scale, in free text, in a grid, by a number or a date, by ordering options, by files. A section
break stands between questions and is not answered. What a body holds depends on its kind, so each
kind has a record of its own.
-/

namespace Questionnaire

/-- One of several things to pick, or a row or column of a grid. -/
structure Choice where
  /-- What an answer records when this is picked. -/
  id : String
  /-- What respondents read. -/
  text : Wording
deriving DecidableEq

/-- One option is to be picked. -/
structure PickOne where
  /-- The options. -/
  options : List Choice := []
  /-- Whether the options are shuffled each time they are presented. -/
  randomize : Bool := false
  /-- Whether a text that is no option is accepted. -/
  allowOther : Bool := false
deriving DecidableEq

/-- Any number of options may be picked. -/
structure PickMany where
  /-- The options. -/
  options : List Choice := []
  /-- Whether the options are shuffled each time they are presented. -/
  randomize : Bool := false
  /-- Whether a text that is no option is accepted. -/
  allowOther : Bool := false
  /-- The least number of entries. -/
  minSelections : Option UInt64 := none
  /-- The greatest number of entries. -/
  maxSelections : Option UInt64 := none
deriving DecidableEq

/-- A whole number from one up to the number of points is to be given. -/
structure RatingScale where
  /-- The number of points. -/
  points : UInt8 := 5
  /-- What the lowest point means. -/
  minLabel : Wording := .empty
  /-- What the highest point means. -/
  maxLabel : Wording := .empty
deriving DecidableEq

/-- A text is to be written. -/
structure TextEntry where
  /-- Whether there is room for several lines. -/
  multiline : Bool := false
  /-- The greatest number of characters. -/
  maxLength : Option UInt64 := none
  /-- What the empty field shows. -/
  placeholder : Wording := .empty
deriving DecidableEq

/-- One column is to be picked in each row. -/
structure Grid where
  /-- The rows. -/
  rows : List Choice := []
  /-- The columns. -/
  columns : List Choice := []
deriving DecidableEq

/-- A number is to be given. -/
structure NumberEntry where
  /-- The least number. -/
  min : Option Number := none
  /-- The greatest number. -/
  max : Option Number := none
  /-- The step of the input field. -/
  step : Option Number := none
deriving DecidableEq

/-- A date is to be given. -/
structure DateEntry where
  /-- The earliest date. -/
  min : Option Date := none
  /-- The latest date. -/
  max : Option Date := none
deriving DecidableEq

/-- Options are to be put in order. -/
structure Ranking where
  /-- The options. -/
  options : List Choice := []
  /-- Whether the options are shuffled each time they are presented. -/
  randomize : Bool := false
deriving DecidableEq

/-- Files are to be handed in. -/
structure Upload where
  /-- Accepted types: `.pdf`, `image/png` or `image/*`. All are accepted if none is named. -/
  allowedTypes : List String := []
  /-- The greatest number of files. -/
  maxFiles : Option UInt64 := none
  /-- The greatest size of a file in bytes. -/
  maxFileSize : Option UInt64 := none
deriving DecidableEq

/-- How a question is answered. -/
inductive Body where
  /-- By picking one of the options, all in view. -/
  | multipleChoice (pick : PickOne)
  /-- By picking any of the options. -/
  | checkboxGroup (pick : PickMany)
  /-- By a point on a scale. -/
  | likertScale (scale : RatingScale)
  /-- By a text. -/
  | openText (entry : TextEntry)
  /-- By picking one of the options from a list that unfolds. -/
  | dropdown (pick : PickOne)
  /-- By a column in each row. -/
  | matrix (grid : Grid)
  /-- By a number. -/
  | numeric (entry : NumberEntry)
  /-- By a date. -/
  | date (entry : DateEntry)
  /-- By an order of the options. -/
  | ranking (order : Ranking)
  /-- By files. -/
  | fileUpload (upload : Upload)
  /-- Not at all: a heading that starts a section. -/
  | sectionBreak
deriving DecidableEq

/-- A question of a survey. -/
structure Question where
  /-- What answers and rules refer to. -/
  id : String
  /-- What is asked. -/
  text : Wording := .empty
  /-- What is said beside. -/
  description : Wording := .empty
  /-- Whether an answer must be given. -/
  required : Bool := false
  /-- How it is answered. -/
  body : Body
  /-- What its answer shows and hides. -/
  rules : List Rule := []
deriving DecidableEq

/-! ## Kinds -/

/-- The kind of a question, without what belongs to it. -/
inductive Kind where
  /-- One option. -/
  | multipleChoice
  /-- Any number of options. -/
  | checkboxGroup
  /-- A point on a scale. -/
  | likertScale
  /-- A text. -/
  | openText
  /-- One option from a list that unfolds. -/
  | dropdown
  /-- A column in each row. -/
  | matrix
  /-- A number. -/
  | numeric
  /-- A date. -/
  | date
  /-- An order of options. -/
  | ranking
  /-- Files. -/
  | fileUpload
  /-- No answer. -/
  | sectionBreak
deriving DecidableEq

namespace Kind

/-- The kind's name in data. -/
def tag : Kind → String
  | .multipleChoice => "multiple_choice"
  | .checkboxGroup => "checkbox_group"
  | .likertScale => "likert_scale"
  | .openText => "open_text"
  | .dropdown => "dropdown"
  | .matrix => "matrix"
  | .numeric => "numeric"
  | .date => "date"
  | .ranking => "ranking"
  | .fileUpload => "file_upload"
  | .sectionBreak => "section_break"

/-- The kinds in their listed order. -/
def all : List Kind :=
  [.multipleChoice, .checkboxGroup, .likertScale, .openText, .dropdown, .matrix, .numeric, .date,
   .ranking, .fileUpload, .sectionBreak]

/-- Whether answers are sets of selected options, to which rules of membership apply. -/
def isMultiSelect : Kind → Bool
  | .checkboxGroup => true
  | _ => false

/-- Whether answers are numbers, to which rules of size apply. -/
def isNumericLike : Kind → Bool
  | .numeric | .likertScale => true
  | _ => false

/-- Whether questions of the kind offer options. -/
def hasOptions : Kind → Bool
  | .multipleChoice | .dropdown | .checkboxGroup | .ranking => true
  | _ => false

end Kind

namespace Body

/-- The kind of a body. -/
def kind : Body → Kind
  | .multipleChoice _ => .multipleChoice
  | .checkboxGroup _ => .checkboxGroup
  | .likertScale _ => .likertScale
  | .openText _ => .openText
  | .dropdown _ => .dropdown
  | .matrix _ => .matrix
  | .numeric _ => .numeric
  | .date _ => .date
  | .ranking _ => .ranking
  | .fileUpload _ => .fileUpload
  | .sectionBreak => .sectionBreak

/-- The options offered; none for a body without options. -/
def options : Body → List Choice
  | .multipleChoice pick | .dropdown pick => pick.options
  | .checkboxGroup pick => pick.options
  | .ranking order => order.options
  | _ => []

/-- Whether the options are shuffled each time they are presented. -/
def randomizesOptions : Body → Bool
  | .multipleChoice pick | .dropdown pick => pick.randomize
  | .checkboxGroup pick => pick.randomize
  | .ranking order => order.randomize
  | _ => false

end Body

namespace Question

/-- The kind of a question. -/
def kind (q : Question) : Kind :=
  q.body.kind

/-- Whether the question is a section break. -/
def isSectionBreak (q : Question) : Bool :=
  match q.body with
  | .sectionBreak => true
  | _ => false

end Question

/-- Whether one of the choices has the id. -/
def isChoiceId (choices : List Choice) (id : String) : Bool :=
  choices.any fun choice => choice.id == id

end Questionnaire
