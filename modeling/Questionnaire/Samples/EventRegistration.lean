import Questionnaire.Survey.Basic

/-!
# A sample: registration for a conference

A form in one language with a look of its own, with questions of the kinds whose answers have
structure: dates and numbers within bounds, a ranking, a grid, files.
-/

namespace Questionnaire.Samples

/-- The greatest size of an abstract in bytes. -/
def maxAbstractSize : UInt64 :=
  2 * 1024 * 1024

/-- Choices in one wording each. -/
def plainChoices (entries : List (String × String)) : List Choice :=
  entries.map fun entry => ⟨entry.1, .plain entry.2⟩

/-- The questions of the registration on the visit. -/
def visitQuestions : List Question :=
  [{ id := "ticket"
     text := .plain "Ticket type"
     required := true
     body := .dropdown
       { options := plainChoices
          [("student", "Student"), ("regular", "Regular"), ("sponsor", "Sponsor")] } },
   { id := "arrival"
     text := .plain "Arrival date"
     required := true
     body := .date { min := Date.of? 2026 9 1, max := Date.of? 2026 9 5 } },
   { id := "guests"
     text := .plain "Number of guests"
     body := .numeric
       { min := some (.ofInt 0), max := some (.ofInt 3), step := some (.ofInt 1) } }]

/-- The questions of the registration on the program, after the break that announces them. -/
def programQuestions : List Question :=
  [{ id := "program", text := .plain "Program", body := .sectionBreak },
   { id := "tracks"
     text := .plain "Rank the tracks by interest"
     body := .ranking
       { options := plainChoices
          [("embedded", "Embedded"), ("web", "Web"), ("compilers", "Compilers")] } },
   { id := "workshops"
     text := .plain "Rate the workshop formats"
     required := true
     body := .matrix
       { rows := plainChoices
          [("hands_on", "Hands-on"), ("talks", "Talks"), ("panels", "Panels")]
         columns := plainChoices [("love", "Love it"), ("fine", "Fine"), ("skip", "Skip")] } },
   { id := "abstract"
     text := .plain "Upload your talk abstract (optional)"
     body := .fileUpload
       { allowedTypes := [".pdf", "text/*"], maxFiles := some 2
         maxFileSize := some maxAbstractSize } }]

/-- A registration form with answers of many shapes. -/
def eventRegistration : Survey where
  id := "rustconf-registration"
  title := .plain "Conference Registration"
  settings :=
    { theme := { primaryColor := "#0f766e", backgroundColor := "#f8fafc" }
      requiredMark := .text
      showResponseSummary := true }
  questions := visitQuestions ++ programQuestions

end Questionnaire.Samples
