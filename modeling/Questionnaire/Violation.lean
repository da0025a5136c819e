import Questionnaire.Calendar.DateText
import Questionnaire.Number.Style

/-!
# Violations

A violation is the reason why an answer does not satisfy its question, with what a respondent needs
to know to mend it. Two of them say that something is still to be answered; the others object to
what was answered.
-/

namespace Questionnaire

/-- Why an answer does not satisfy its question. -/
inductive Violation where
  /-- There is no answer. -/
  | required
  /-- Some rows have no answer. -/
  | incompleteMatrix (missing : List String)
  /-- The answer has another shape than the question takes. -/
  | typeMismatch (expected actual : String)
  /-- There are too many files. -/
  | tooManyFiles (max : UInt64) (actual : Nat)
  /-- A file is too large. -/
  | fileTooLarge (name : String) (size max : UInt64)
  /-- A file is of none of the accepted types. -/
  | fileTypeNotAllowed (name : String)
  /-- The answer, given as it reads, is no finite number. -/
  | notANumber (value : String)
  /-- The number is too small. -/
  | belowMinimum (value min : Number)
  /-- The number is too large. -/
  | aboveMaximum (value max : Number)
  /-- The text is no date in the one form accepted. -/
  | notADate (value : String)
  /-- The date is too early. -/
  | dateBeforeMinimum (date min : Date)
  /-- The date is too late. -/
  | dateAfterMaximum (date max : Date)
  /-- The text is too long. -/
  | tooLong (max : UInt64) (actual : Nat)
  /-- Too few options are selected. -/
  | tooFewSelections (min : UInt64) (actual : Nat)
  /-- Too many options are selected. -/
  | tooManySelections (max : UInt64) (actual : Nat)
  /-- The text is none of the options. -/
  | unknownOption (value : String)
  /-- An option is ranked twice. -/
  | duplicateRanking (value : String)
  /-- The number is no point of the scale. -/
  | outOfScale (points : UInt8)
  /-- A cell is in no row or no column of the grid. -/
  | unknownMatrixCell (row column : String)
deriving DecidableEq

namespace Violation

/-- Whether the violation is that something is still to be answered. -/
def isRequired : Violation → Bool
  | .required | .incompleteMatrix _ => true
  | _ => false

/-- Whether the violation objects to what was answered. -/
def isConstraint (v : Violation) : Bool :=
  !v.isRequired

/-- What a respondent is told. -/
def message : Violation → String
  | .required => "This question requires an answer"
  | .incompleteMatrix missing =>
    "Please answer every row (missing: " ++ String.intercalate ", " missing ++ ")"
  | .typeMismatch expected actual => "Expected " ++ expected ++ ", got " ++ actual
  | .tooManyFiles max actual => s!"At most {max.toNat} files can be uploaded, got {actual}"
  | .fileTooLarge name size max =>
    s!"File '{name}' is {size.toNat} bytes, above the limit of {max.toNat} bytes"
  | .fileTypeNotAllowed name => s!"File '{name}' is not an accepted file type"
  | .notANumber value => s!"'{value}' is not a number"
  | .belowMinimum value min => s!"{value.toProse} is below the minimum of {min.toProse}"
  | .aboveMaximum value max => s!"{value.toProse} is above the maximum of {max.toProse}"
  | .notADate value => s!"'{value}' is not a date (expected YYYY-MM-DD)"
  | .dateBeforeMinimum date min =>
    s!"{date.toText} is before the earliest allowed date {min.toText}"
  | .dateAfterMaximum date max => s!"{date.toText} is after the latest allowed date {max.toText}"
  | .tooLong max actual => s!"At most {max.toNat} characters allowed, got {actual}"
  | .tooFewSelections min actual => s!"Select at least {min.toNat} options, got {actual}"
  | .tooManySelections max actual => s!"Select at most {max.toNat} options, got {actual}"
  | .unknownOption value => s!"'{value}' is not one of the options"
  | .duplicateRanking value => s!"'{value}' is ranked more than once"
  | .outOfScale points => s!"Rating must be a whole number from 1 to {points.toNat}"
  | .unknownMatrixCell row column =>
    s!"Row '{row}' / column '{column}' is not part of this matrix"

end Violation

end Questionnaire
