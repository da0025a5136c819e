import Questionnaire.Proofs.Calendar.DateText
import Questionnaire.Proofs.Number.Value
import Questionnaire.Validation

/-!
# What questions ask of answers

Here is said, without a check, which answers a question accepts (`Question.Accepts`). Each kind of
question takes answers of one shape (`Body.Takes`). An answer of that shape may be blank, which is
enough where none is required (`Body.IsBlank`); one that is not must satisfy what the question asks
(`Body.Satisfied`). Grids and section breaks are apart: a grid is asked for row by row, and a
section break asks for nothing.

Numbers are compared by their values, an infinity being an end of the rational numbers and NaN no
value at all, and dates are read from their written form, so nothing here depends on how numbers are
kept or texts are scanned.
-/

namespace Questionnaire

/-! ## What each kind asks -/

/-- The id is that of a choice or, where others are welcome, any text. -/
def PickOne.Satisfied (pick : PickOne) (picked : String) : Prop :=
  pick.allowOther = true ∨ ∃ choice ∈ pick.options, choice.id = picked

/-- Entries in the asked number, each the id of a choice unless others are welcome. -/
structure PickMany.Satisfied (pick : PickMany) (selected : List String) : Prop where
  /-- There are not too few entries. -/
  enough : ∀ min, pick.minSelections = some min → min.toNat ≤ selected.length
  /-- There are not too many entries. -/
  not_too_many : ∀ max, pick.maxSelections = some max → selected.length ≤ max.toNat
  /-- The entries are choices. -/
  known : pick.allowOther = true ∨ ∀ id ∈ selected, ∃ choice ∈ pick.options, choice.id = id

/-- A whole number from one to the number of points. -/
def RatingScale.Satisfied (scale : RatingScale) (rating : Number) : Prop :=
  ∃ n : ℕ, 1 ≤ n ∧ n ≤ scale.points.toNat ∧ rating.value? = some ((n : ℚ) : ExtendedRat)

/-- A text that is not too long. -/
def TextEntry.Satisfied (entry : TextEntry) (text : String) : Prop :=
  ∀ max, entry.maxLength = some max → text.length ≤ max.toNat

/-- A finite number within the bounds. A bound may be an infinity; one without a value, NaN, bounds
nothing. -/
structure NumberEntry.Satisfied (entry : NumberEntry) (x : FiniteNumber) : Prop where
  /-- The number is not too small. -/
  min_le : ∀ min, entry.min = some min → ∀ lowest, min.value? = some lowest → lowest ≤ x.value
  /-- The number is not too large. -/
  le_max : ∀ max, entry.max = some max → ∀ highest, max.value? = some highest → x.value ≤ highest

/-- A date within the bounds, written with a year of four digits. -/
structure DateEntry.Satisfied (entry : DateEntry) (text : String) (date : Date) : Prop where
  /-- The text is the written date. -/
  written : text = date.toText
  /-- The year has four digits. -/
  year : 0 ≤ date.year ∧ date.year ≤ 9999
  /-- The date is not too early. -/
  not_before : ∀ min, entry.min = some min → ¬ date < min
  /-- The date is not too late. -/
  not_after : ∀ max, entry.max = some max → ¬ max < date

/-- Ids of choices, each once; not all need be there. -/
structure Ranking.Satisfied (ranking : Ranking) (ranked : List String) : Prop where
  /-- The entries are choices. -/
  known : ∀ id ∈ ranked, ∃ choice ∈ ranking.options, choice.id = id
  /-- No choice is ranked twice. -/
  once : ranked.Nodup

/-- A file is of an accepted type, which is given in small letters without blanks around: as an
ending of names, as a family of media types, or as one media type. -/
inductive File.HasType (file : File) (accepted : List Char) : Prop where
  /-- The type is a point and what follows it, and the name ends in it. -/
  | ending (point : accepted.head? = some '.')
    (name : accepted <:+ (Text.asciiLower file.name).toList)
  /-- The type is a family, and the media type is of it up to the stroke. -/
  | family {family : List Char} {media : String} (no_point : accepted.head? ≠ some '.')
    (accepted_eq : accepted = family ++ ['/', '*']) (media_eq : file.mediaType = some media)
    (start : (Text.asciiLower media).toList.takeWhile (· ≠ '/') = family)
  /-- The type is the media type. -/
  | media {media : String} (no_point : accepted.head? ≠ some '.')
    (no_family : ¬ ['/', '*'] <:+ accepted) (media_eq : file.mediaType = some media)
    (accepted_eq : accepted = (Text.asciiLower media).toList)

/-- Files in the asked number, none too large and each of an accepted type. -/
structure Upload.Satisfied (upload : Upload) (uploads : List File) : Prop where
  /-- There are not too many files. -/
  not_too_many : ∀ max, upload.maxFiles = some max → uploads.length ≤ max.toNat
  /-- No file is too large. -/
  not_too_large : ∀ file ∈ uploads, ∀ max, upload.maxFileSize = some max → file.size ≤ max
  /-- If types are named, each file is of one of them. -/
  typed : upload.allowedTypes ≠ [] → ∀ file ∈ uploads, ∃ accepted ∈ upload.allowedTypes,
    file.HasType (Text.asciiLower (Text.trim accepted)).toList

/-- Every cell that says something is in a row and a column of the grid. -/
def Grid.Knows (grid : Grid) (cells : IdMap String) : Prop :=
  ∀ row column, cells.get? row = some column → column ≠ "" →
    (∃ choice ∈ grid.rows, choice.id = row) ∧ ∃ choice ∈ grid.columns, choice.id = column

/-- A row has a cell that says something. -/
def Grid.HasRow (cells : IdMap String) (row : Choice) : Prop :=
  ∃ column, cells.get? row.id = some column ∧ column ≠ ""

/-! ## Shapes, blanks and bounds -/

namespace Body

/-- An answer has the shape that questions with the body take. -/
def Takes : Body → Answer → Prop
  | .multipleChoice _, answer | .dropdown _, answer | .openText _, answer | .numeric _, answer =>
    (∃ s, answer = .text s) ∨ ∃ x, answer = .number x
  | .date _, answer => ∃ s, answer = .text s
  | .checkboxGroup _, answer | .ranking _, answer => ∃ items, answer = .list items
  | .fileUpload _, answer => (∃ uploads, answer = .files uploads) ∨ answer = .list []
  | .likertScale _, answer => (∃ x, answer.asNumber? = some x) ∨ answer.isEmpty = true
  | .matrix _, answer => ∃ cells, answer = .grid cells
  | .sectionBreak, _ => True

/-- An answer says nothing to a question with the body: a text that trims to nothing, an empty list
or list of files; on a scale whatever is empty. -/
def IsBlank : Body → Answer → Prop
  | .likertScale _, answer => answer.isEmpty = true
  | _, .text s => Text.trim s = ""
  | _, .list items => items = []
  | _, .files uploads => uploads = []
  | _, .number _ | _, .grid _ => False

/-- An answer is within what the body asks. -/
def Satisfied : Body → Answer → Prop
  | .multipleChoice pick, answer | .dropdown pick, answer =>
    ∃ picked, answer.scalarText? = some picked ∧ pick.Satisfied picked
  | .checkboxGroup pick, answer => ∃ selected, answer = .list selected ∧ pick.Satisfied selected
  | .likertScale scale, answer => ∃ rating, answer.asNumber? = some rating ∧ scale.Satisfied rating
  | .openText entry, answer => ∃ text, answer.scalarText? = some text ∧ entry.Satisfied text
  | .numeric entry, answer =>
    ∃ x : FiniteNumber, answer.asNumber? = some (.finite x) ∧ entry.Satisfied x
  | .date entry, answer => ∃ s date, answer = .text s ∧ entry.Satisfied (Text.trim s) date
  | .ranking order, answer => ∃ ranked, answer = .list ranked ∧ order.Satisfied ranked
  | .fileUpload upload, answer =>
    ∃ uploads, answer.asFiles? = some uploads ∧ upload.Satisfied uploads
  | .matrix _, _ | .sectionBreak, _ => True

end Body

/-! ## Accepted answers -/

/-- An answer, or that there is none, is as the question asks. -/
inductive Question.Accepts (q : Question) : Option Answer → Prop where
  /-- A section break takes whatever there is. -/
  | nothing_asked (answer : Option Answer) (body : q.body = .sectionBreak) : Accepts q answer
  /-- Without an answer, none is required. -/
  | unanswered (optional : q.required = false) : Accepts q none
  /-- The cells of a grid are in its rows and columns, and where an answer is required every row
  has one. -/
  | cells {grid : Grid} {cells : IdMap String} (body : q.body = .matrix grid)
    (known : grid.Knows cells)
    (complete : q.required = true → ∀ row ∈ grid.rows, Grid.HasRow cells row) :
    Accepts q (some (.grid cells))
  /-- An answer of the right shape is blank and none is required. -/
  | blank {answer : Answer} (no_grid : q.kind ≠ .matrix) (takes : q.body.Takes answer)
    (blank : q.body.IsBlank answer) (optional : q.required = false) : Accepts q (some answer)
  /-- An answer of the right shape is not blank and is within what is asked. -/
  | satisfied {answer : Answer} (no_grid : q.kind ≠ .matrix) (takes : q.body.Takes answer)
    (not_blank : ¬ q.body.IsBlank answer) (satisfied : q.body.Satisfied answer) :
    Accepts q (some answer)

end Questionnaire
