import Questionnaire.Survey.Basic

/-!
# A sample: customer feedback

A survey in English and German with two sections whose questions are shuffled, each within its
section. A satisfaction below three asks what went wrong, picking the support asks how helpful it
was, and who does not want to be contacted is not asked for an address.
-/

namespace Questionnaire.Samples

/-- A wording in English and German. -/
def inEnglishAndGerman (english german : String) : Wording :=
  .localized (.ofList [("en", english), ("de", german)])

/-- A choice in English and German. -/
def bilingualChoice (id english german : String) : Choice :=
  ⟨id, inEnglishAndGerman english german⟩

/-- A scale of five points. -/
def fivePoints (lowest highest : String) : Body :=
  .likertScale { points := 5, minLabel := .plain lowest, maxLabel := .plain highest }

/-- The operand that a small integer is. -/
def countOperand (n : Int) : Operand :=
  .number (.ofInt n)

/-- The settings of the feedback survey. -/
def feedbackSettings : Settings where
  languages := ["en", "de"]
  randomizeQuestions := true
  respectSections := true
  completionMessage := inEnglishAndGerman "Thanks for the feedback!" "Danke für Ihr Feedback!"

/-- The questions of the feedback survey on the product. -/
def feedbackQuestions : List Question :=
  [{ id := "satisfaction"
     text := inEnglishAndGerman "How satisfied are you overall?" "Wie zufrieden sind Sie insgesamt?"
     required := true
     body := fivePoints "Not at all" "Very"
     rules := [⟨"what_went_wrong", .reveal, .lessThan, countOperand 3⟩] },
   { id := "what_went_wrong"
     text := inEnglishAndGerman "What went wrong?" "Was ist schiefgelaufen?"
     body := .openText { multiline := true, maxLength := some 500 } },
   { id := "features"
     text := inEnglishAndGerman "Which features did you use?"
       "Welche Funktionen haben Sie genutzt?"
     body := .checkboxGroup
       { options :=
          [bilingualChoice "search" "Search" "Suche", bilingualChoice "export" "Export" "Export",
           bilingualChoice "support" "Customer support" "Kundendienst"] }
     rules := [⟨"support_rating", .reveal, .contains, .text "support"⟩] },
   { id := "support_rating"
     text := inEnglishAndGerman "How helpful was our support?"
       "Wie hilfreich war unser Kundendienst?"
     body := fivePoints "Useless" "Excellent" }]

/-- The questions of the feedback survey on staying in touch, after the break before them. -/
def contactQuestions : List Question :=
  [{ id := "contact"
     text := inEnglishAndGerman "Staying in touch" "In Kontakt bleiben"
     body := .sectionBreak },
   { id := "contact_ok"
     text := inEnglishAndGerman "May we contact you?" "Dürfen wir Sie kontaktieren?"
     required := true
     body := .multipleChoice
       { options := [bilingualChoice "yes" "Yes" "Ja", bilingualChoice "no" "No" "Nein"] }
     rules := [⟨"email", .hide, .equals, .text "no"⟩] },
   { id := "email"
     text := inEnglishAndGerman "Your email address" "Ihre E-Mail-Adresse"
     description := inEnglishAndGerman "We never share it." "Wir geben sie nicht weiter."
     body := .openText {} }]

/-- A feedback survey in two languages with two sections and rules of both effects. -/
def customerFeedback : Survey where
  id := "customer-feedback"
  title := inEnglishAndGerman "Customer Feedback" "Kundenfeedback"
  description := inEnglishAndGerman "Five minutes to help us improve."
    "Fünf Minuten, die uns helfen, besser zu werden."
  settings := feedbackSettings
  questions := feedbackQuestions ++ contactQuestions

/-- The feedback survey in authored order, moving on by itself after each valid answer. -/
def customerFeedbackAutoAdvance : Survey :=
  { customerFeedback with
    settings := { feedbackSettings with navigation := .autoAdvance, randomizeQuestions := false } }

end Questionnaire.Samples
