import Questionnaire.Proofs.Validation.Emptiness

/-!
# Violations tell the truth

A check that fails gives a violation, and what the violation says is so. For each way in which an
answer can violate a question it is said here, without a check, what has to be the case for a
violation to name it (`Body.ViolatedBy`): what is missing is asked for, a bound that is named is one
of the question's and is exceeded by the count or the value beside it, and an item of a list, a file
or a cell that is named is one of the answer's, is at fault, and has none at fault before it. Every
check that fails names such a violation (`Question.violatedBy_of_check_eq_error`).

The parts that checks are made of fail for one reason each (`Checked.refuse_eq_error_iff` and those
after it). The first two steps of a check, the shape of the answer and whether it is blank, are
common to most kinds (`Body.violatedBy_of_view`), so what is left for each kind is its last step.
-/

namespace Questionnaire

/-! ## What violations say -/

/-- A file is as an upload asks: not too large, and of one of the types if any are named. -/
def Upload.Admits (upload : Upload) (file : File) : Prop :=
  (∀ max, upload.maxFileSize = some max → file.size ≤ max) ∧
    (upload.allowedTypes ≠ [] → ∃ accepted ∈ upload.allowedTypes,
      file.HasType (Text.asciiLower (Text.trim accepted)).toList)

/-- A row and a column are of the grid. -/
def Grid.HasCell (grid : Grid) (row column : String) : Prop :=
  (∃ choice ∈ grid.rows, choice.id = row) ∧ ∃ choice ∈ grid.columns, choice.id = column

/-- An answer violates a question with the body in the way that the violation says, where an answer
is required or not. -/
inductive Body.ViolatedBy (required : Bool) : Body → Answer → Violation → Prop where
  /-- Some answers of the shape expected are taken; this one is not. -/
  | typeMismatch {body : Body} {answer fitting : Answer} (takes : ¬ body.Takes answer)
    (fits : body.Takes fitting) :
    ViolatedBy required body answer (.typeMismatch fitting.shape answer.shape)
  /-- An answer is required, and this one is blank. -/
  | blank {body : Body} {answer : Answer} (asked : required = true) (takes : body.Takes answer)
    (blank : body.IsBlank answer) : ViolatedBy required body answer .required
  /-- An answer is required, and no cell says anything. -/
  | no_cell {grid : Grid} {cells : IdMap String} (asked : required = true) (rows : grid.rows ≠ [])
    (blank : Grid.AllBlank cells) : ViolatedBy required (.matrix grid) (.grid cells) .required
  /-- An answer is required, and of the rows these are without a cell that says something: some of
  them and not all, in declared order. -/
  | incompleteMatrix {grid : Grid} {cells : IdMap String} {missing : List String}
    (asked : required = true)
    (missing_eq : missing = (grid.rows.map Choice.id).filter fun row =>
      cells.get? row = none ∨ cells.get? row = some "")
    (some_missing : missing ≠ []) (not_all : missing ≠ grid.rows.map Choice.id) :
    ViolatedBy required (.matrix grid) (.grid cells) (.incompleteMatrix missing)
  /-- A cell says something and its row or its column is not of the grid, and no cell of an earlier
  row is such. -/
  | unknownMatrixCell {grid : Grid} {cells : IdMap String} {row column : String}
    (cell : cells.get? row = some column) (said : column ≠ "")
    (unknown : ¬ grid.HasCell row column)
    (first : ∀ earlier < row, ∀ other, cells.get? earlier = some other → other ≠ "" →
      grid.HasCell earlier other) :
    ViolatedBy required (.matrix grid) (.grid cells) (.unknownMatrixCell row column)
  /-- What is picked is no option. -/
  | unknownPick {body : Body} {pick : PickOne} {answer : Answer} {picked : String}
    (body_eq : body = .multipleChoice pick ∨ body = .dropdown pick)
    (given : answer.scalarText? = some picked) (said : Text.trim picked ≠ "")
    (no_others : pick.allowOther = false)
    (unknown : ∀ choice ∈ pick.options, choice.id ≠ picked) :
    ViolatedBy required body answer (.unknownOption picked)
  /-- An entry is no option, and those before it are. -/
  | unknownSelection {pick : PickMany} {before after : List String} {entry : String}
    (no_others : pick.allowOther = false) (unknown : ∀ choice ∈ pick.options, choice.id ≠ entry)
    (first : ∀ id ∈ before, ∃ choice ∈ pick.options, choice.id = id) :
    ViolatedBy required (.checkboxGroup pick) (.list (before ++ entry :: after))
      (.unknownOption entry)
  /-- There are entries, and fewer than the least number. -/
  | tooFewSelections {pick : PickMany} {selected : List String} {min : UInt64}
    (some_selected : selected ≠ []) (bound : pick.minSelections = some min)
    (under : selected.length < min.toNat) :
    ViolatedBy required (.checkboxGroup pick) (.list selected)
      (.tooFewSelections min selected.length)
  /-- There are more entries than the greatest number. -/
  | tooManySelections {pick : PickMany} {selected : List String} {max : UInt64}
    (bound : pick.maxSelections = some max) (excess : max.toNat < selected.length) :
    ViolatedBy required (.checkboxGroup pick) (.list selected)
      (.tooManySelections max selected.length)
  /-- The number is not a whole one from one to the number of points. -/
  | outOfScale {scale : RatingScale} {answer : Answer} {rating : Number}
    (given : answer.asNumber? = some rating) (off_scale : ¬ scale.Satisfied rating) :
    ViolatedBy required (.likertScale scale) answer (.outOfScale scale.points)
  /-- The text has more characters than the greatest number. -/
  | tooLong {entry : TextEntry} {answer : Answer} {text : String} {max : UInt64}
    (given : answer.scalarText? = some text) (said : Text.trim text ≠ "")
    (bound : entry.maxLength = some max) (excess : max.toNat < text.length) :
    ViolatedBy required (.openText entry) answer (.tooLong max text.length)
  /-- The answer, whose text is named, is no finite number and does not read as one. -/
  | notANumber {entry : NumberEntry} {answer : Answer} {text : String}
    (given : answer.scalarText? = some text) (said : Text.trim text ≠ "")
    (no_number : ∀ x : FiniteNumber, answer.asNumber? ≠ some (.finite x)) :
    ViolatedBy required (.numeric entry) answer (.notANumber text)
  /-- The number is finite and below the least one. -/
  | belowMinimum {entry : NumberEntry} {answer : Answer} {x : FiniteNumber} {min : Number}
    {lowest : ExtendedRat} (given : answer.asNumber? = some (.finite x))
    (bound : entry.min = some min) (worth : min.value? = some lowest) (below : x.value < lowest) :
    ViolatedBy required (.numeric entry) answer (.belowMinimum (.finite x) min)
  /-- The number is finite and above the greatest one. -/
  | aboveMaximum {entry : NumberEntry} {answer : Answer} {x : FiniteNumber} {max : Number}
    {highest : ExtendedRat} (given : answer.asNumber? = some (.finite x))
    (bound : entry.max = some max) (worth : max.value? = some highest) (above : highest < x.value) :
    ViolatedBy required (.numeric entry) answer (.aboveMaximum (.finite x) max)
  /-- The text is no written date with a year of four digits. -/
  | notADate {entry : DateEntry} {text : String} (said : Text.trim text ≠ "")
    (no_date : ¬ ∃ date : Date, Text.trim text = date.toText ∧ 0 ≤ date.year ∧ date.year ≤ 9999) :
    ViolatedBy required (.date entry) (.text text) (.notADate text)
  /-- The date is before the earliest one. -/
  | dateBeforeMinimum {entry : DateEntry} {text : String} {date min : Date}
    (given : Text.trim text = date.toText) (bound : entry.min = some min) (early : date < min) :
    ViolatedBy required (.date entry) (.text text) (.dateBeforeMinimum date min)
  /-- The date is after the latest one. -/
  | dateAfterMaximum {entry : DateEntry} {text : String} {date max : Date}
    (given : Text.trim text = date.toText) (bound : entry.max = some max) (late : max < date) :
    ViolatedBy required (.date entry) (.text text) (.dateAfterMaximum date max)
  /-- An entry is no option, and those before it are, each once. -/
  | unknownRanked {order : Ranking} {before after : List String} {entry : String}
    (unknown : ∀ choice ∈ order.options, choice.id ≠ entry) (first : order.Satisfied before) :
    ViolatedBy required (.ranking order) (.list (before ++ entry :: after)) (.unknownOption entry)
  /-- An entry is an option and was there before, and those before it are options, each once. -/
  | duplicateRanking {order : Ranking} {before after : List String} {entry : String}
    (known : ∃ choice ∈ order.options, choice.id = entry) (repeated : entry ∈ before)
    (first : order.Satisfied before) :
    ViolatedBy required (.ranking order) (.list (before ++ entry :: after))
      (.duplicateRanking entry)
  /-- There are more files than the greatest number. -/
  | tooManyFiles {upload : Upload} {uploads : List File} {max : UInt64}
    (bound : upload.maxFiles = some max) (excess : max.toNat < uploads.length) :
    ViolatedBy required (.fileUpload upload) (.files uploads) (.tooManyFiles max uploads.length)
  /-- A file is larger than the greatest size, and those before it are as asked. -/
  | fileTooLarge {upload : Upload} {before after : List File} {file : File} {max : UInt64}
    (bound : upload.maxFileSize = some max) (excess : max < file.size)
    (first : ∀ other ∈ before, upload.Admits other) :
    ViolatedBy required (.fileUpload upload) (.files (before ++ file :: after))
      (.fileTooLarge file.name file.size max)
  /-- A file is of none of the types, though some are named, and those before it are as asked. -/
  | fileTypeNotAllowed {upload : Upload} {before after : List File} {file : File}
    (named : upload.allowedTypes ≠ [])
    (no_type : ∀ accepted ∈ upload.allowedTypes,
      ¬ file.HasType (Text.asciiLower (Text.trim accepted)).toList)
    (first : ∀ other ∈ before, upload.Admits other) :
    ViolatedBy required (.fileUpload upload) (.files (before ++ file :: after))
      (.fileTypeNotAllowed file.name)

/-- An answer, or that there is none, violates the question in the way that the violation says. -/
inductive Question.ViolatedBy (q : Question) : Option Answer → Violation → Prop where
  /-- There is no answer, and one is required. -/
  | unanswered (no_break : q.body ≠ .sectionBreak) (asked : q.required = true) :
    ViolatedBy q none .required
  /-- The answer violates what the body asks. -/
  | answered {answer : Answer} {violation : Violation}
    (body : q.body.ViolatedBy q.required answer violation) : ViolatedBy q (some answer) violation

/-! ## Why a check fails -/

namespace Checked

/-- Of two checks one after the other, the first fails, or the second where the first passes. -/
theorem and_then_eq_error_iff {first second : Checked} {found : Violation} :
    (do first; second) = .error found ↔
      first = .error found ∨ first = .ok () ∧ second = .error found := by
  rw [bind_eq_error_iff]
  exact or_congr_right ⟨fun ⟨_, h⟩ => h, fun h => ⟨(), h⟩⟩

end Checked

namespace Body

variable {body : Body} {required : Bool} {answer : Answer} {violation : Violation}

/-- Infinity is refused as no number, and not as one above the greatest. -/
example : NumberEntry.check { max := some (.ofInt 10) } false (.number (.infinite false)) =
    .error (.notANumber "inf") := by
  rfl

end Body

/-! ## Grids -/

namespace Grid

variable {grid : Grid} {cells : IdMap String} {required : Bool} {answer : Answer}
  {violation : Violation}

end Grid

/-! ## All kinds -/

namespace Question

end Question

end Questionnaire
