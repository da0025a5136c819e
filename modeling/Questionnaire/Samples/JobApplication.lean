import Questionnaire.Survey.Basic

/-!
# A sample: a job application

A form in English and French, kept as the text its authors wrote and loaded from it. Much experience
asks about mentoring and little about plans to learn; an interest in embedded work hides the
question of where to work. The areas of interest are shuffled each time they are presented.
-/

namespace Questionnaire.Samples

/-- The greatest size of a CV in bytes. -/
def maxCvSize : UInt64 :=
  5 * 1024 * 1024

/-- The text with braces for the angle brackets that stand for them. -/
def braced (text : String) : String :=
  text.map fun c =>
    match c with
    | '⟨' => '\x7b'
    | '⟩' => '\x7d'
    | _ => c

/-- The application form as it was authored, but for its braces. -/
def jobApplicationTemplate : String :=
r##"⟨
  "id": "job-application",
  "title": "R&D Engineer <Rust> Application",
  "description": ⟨
    "en": "Tell us about yourself. Takes about ten minutes.",
    "fr": "Parlez-nous de vous. Environ dix minutes."
  ⟩,
  "settings": ⟨
    "defaultLanguage": "en",
    "languages": ["en", "fr"],
    "primaryColor": "#7c3aed",
    "fontFamily": "Georgia, serif",
    "navigationStyle": "manual",
    "questionNumbering": "visible",
    "requiredIndicator": "asterisk",
    "showResponseSummary": true,
    "completionMessage": ⟨
      "en": "Application received. We will be in touch.",
      "fr": "Candidature reçue. Nous vous recontacterons."
    ⟩
  ⟩,
  "questions": [
    ⟨
      "id": "full_name",
      "type": "open_text",
      "text": ⟨ "en": "Full name", "fr": "Nom complet" ⟩,
      "required": true,
      "properties": ⟨ "maxLength": 120 ⟩
    ⟩,
    ⟨
      "id": "experience",
      "type": "numeric",
      "text": ⟨ "en": "Years of Rust experience", "fr": "Années d'expérience en Rust" ⟩,
      "required": true,
      "properties": ⟨ "min": 0, "max": 50, "step": 0.5 ⟩,
      "logic": [
        ⟨
          "targetQuestionId": "mentoring",
          "action": "show",
          "condition": "greater_than",
          "value": 5
        ⟩,
        ⟨
          "targetQuestionId": "learning_plan",
          "action": "show",
          "condition": "less_than",
          "value": "2"
        ⟩
      ]
    ⟩,
    ⟨
      "id": "mentoring",
      "type": "likert_scale",
      "text": ⟨ "en": "How much do you enjoy mentoring?", "fr": "Aimez-vous encadrer ?" ⟩,
      "properties": ⟨ "scale": 7, "minLabel": "Not at all", "maxLabel": "A lot" ⟩
    ⟩,
    ⟨
      "id": "learning_plan",
      "type": "open_text",
      "text": ⟨ "en": "How do you plan to learn Rust?", "fr": "Comment comptez-vous apprendre Rust ?" ⟩,
      "properties": ⟨ "multiline": true ⟩
    ⟩,
    ⟨
      "id": "areas",
      "type": "checkbox_group",
      "text": ⟨ "en": "Areas of interest", "fr": "Domaines d'intérêt" ⟩,
      "required": true,
      "options": [
        ⟨ "id": "async", "text": ⟨ "en": "Async networking", "fr": "Réseau asynchrone" ⟩ ⟩,
        ⟨ "id": "embedded", "text": ⟨ "en": "Embedded", "fr": "Embarqué" ⟩ ⟩,
        ⟨ "id": "tooling", "text": ⟨ "en": "Developer tooling", "fr": "Outillage" ⟩ ⟩
      ],
      "properties": ⟨ "randomize": true, "maxSelections": 2 ⟩,
      "logic": [
        ⟨
          "targetQuestionId": "remote",
          "action": "hide",
          "condition": "contains",
          "value": "embedded"
        ⟩
      ]
    ⟩,
    ⟨
      "id": "remote",
      "type": "multiple_choice",
      "text": ⟨ "en": "Preferred work style", "fr": "Mode de travail préféré" ⟩,
      "options": [
        ⟨ "id": "remote", "text": ⟨ "en": "Remote", "fr": "À distance" ⟩ ⟩,
        ⟨ "id": "hybrid", "text": ⟨ "en": "Hybrid", "fr": "Hybride" ⟩ ⟩,
        ⟨ "id": "office", "text": ⟨ "en": "Office", "fr": "Bureau" ⟩ ⟩
      ],
      "properties": ⟨ "allowOther": true ⟩
    ⟩,
    ⟨
      "id": "documents",
      "type": "section_break",
      "text": ⟨ "en": "Documents", "fr": "Documents" ⟩
    ⟩,
    ⟨
      "id": "cv",
      "type": "file_upload",
      "text": ⟨ "en": "Upload your CV", "fr": "Téléversez votre CV" ⟩,
      "required": true,
      "properties": ⟨
        "allowedTypes": [".pdf", "application/msword"],
        "maxFiles": 1,
        "maxFileSize": 5242880
      ⟩
    ⟩,
    ⟨
      "id": "start_date",
      "type": "date",
      "text": ⟨ "en": "Earliest start date", "fr": "Date de début au plus tôt" ⟩,
      "properties": ⟨ "min": "2026-01-01" ⟩
    ⟩,
    ⟨
      "id": "notes",
      "type": "open_text",
      "text": "Anything else? (</script> tags welcome)",
      "description": "Free text, shown to the hiring team as-is."
    ⟩
  ]
⟩
"##

/-- The application form as it was authored. -/
def jobApplicationText : String :=
  braced jobApplicationTemplate

/-- The application form, loaded. -/
def jobApplication : Except Survey.Failure Survey :=
  Survey.load jobApplicationText

end Questionnaire.Samples
