import Questionnaire.Interview.Script
import Questionnaire.Page.Document
import Questionnaire.Samples.CustomerFeedback
import Questionnaire.Samples.EventRegistration
import Questionnaire.Samples.JobApplication
import Questionnaire.Survey.Findings
import Questionnaire.Proofs.IdMap
import Questionnaire.Proofs.Shuffle.Tiles
import Questionnaire.Proofs.Shuffle.Permutation
import Questionnaire.Proofs.Visibility.Meaning
import Questionnaire.Proofs.Interview.Coherence
import Questionnaire.Proofs.Interview.Cursor
import Questionnaire.Proofs.Interview.Forward
import Questionnaire.Proofs.Script.Turn
import Questionnaire.Proofs.Script.Completeness
import Questionnaire.Proofs.Interview.Submission
import Questionnaire.Proofs.Number.Value
import Questionnaire.Proofs.Number.Written
import Questionnaire.Proofs.Calendar.DateText
import Questionnaire.Proofs.Validation.Demands
import Questionnaire.Proofs.Validation.Acceptance
import Questionnaire.Proofs.Validation.Emptiness
import Questionnaire.Proofs.Json.Numeral
import Questionnaire.Proofs.Json.RoundTrip
import Questionnaire.Proofs.Json.Shape
import Questionnaire.Proofs.Wording
import Questionnaire.Proofs.Question.Json
import Questionnaire.Proofs.Settings
import Questionnaire.Proofs.Survey.RoundTrip
import Questionnaire.Proofs.Interview.Range
import Questionnaire.Proofs.Interview.AutoAdvance
import Questionnaire.Proofs.Script.Termination
import Questionnaire.Proofs.Json.Respelling
import Questionnaire.Proofs.Text.Occurrence
import Questionnaire.Proofs.Page.Masking
import Questionnaire.Proofs.Page.Tags
import Questionnaire.Proofs.Page.Form
import Questionnaire.Proofs.Page.SurveyBlock
import Questionnaire.Proofs.Page.SameShape
import Questionnaire.Proofs.Shuffle.Sections
import Questionnaire.Proofs.Interview.InPlace
import Questionnaire.Proofs.Interview.Completion
import Questionnaire.Proofs.Interview.Presentation
import Questionnaire.Proofs.Survey.Findings
import Questionnaire.Proofs.Report.RoundTrip
import Questionnaire.Proofs.Report.Display
import Questionnaire.Proofs.Interview.Passing
import Questionnaire.Proofs.Visibility.Reordering
import Questionnaire.Proofs.Interview.CursorAfterAnswer
import Questionnaire.Proofs.Survey.Sites
import Questionnaire.Proofs.Validation.Violated
import Questionnaire.Proofs.Page.Escaping
import Questionnaire.Proofs.Page.RadioNames
import Questionnaire.Proofs.Page.RadioGroups
import Questionnaire.Proofs.Validation.Requirement
import Questionnaire.Proofs.Validation.Selections
import Questionnaire.Proofs.Interview.Confinement
import Questionnaire.Proofs.Survey.Repetitions
import Questionnaire.Proofs.Shuffle.Draws
import Questionnaire.Proofs.Shuffle.Fairness
import Questionnaire.Proofs.Page.StyleMarks
import Questionnaire.Proofs.Question.Rearranged
import Questionnaire.Proofs.Wording.Addition
import Questionnaire.Proofs.Calendar.DateOrder
import Questionnaire.Proofs.Validation.ReadBack
import Questionnaire.Proofs.Page.FileName
import Questionnaire.Proofs.Page.Entities
import Questionnaire.Proofs.Shuffle.Partition
