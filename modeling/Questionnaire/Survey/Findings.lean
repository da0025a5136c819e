import Questionnaire.Survey.Basic

/-!
# Findings

A survey can be loaded and still be wrong: a rule may point at no question, or compare what can
never compare. `Survey.findings` lists such problems; none of them keeps the survey from being
answered. Repeated ids come first, then the languages, then question by question its own problems
and those of its rules.
-/

namespace Questionnaire

/-- A problem of a survey. -/
inductive Finding where
  /-- A rule points at an id that no question has. -/
  | unknownTarget (source target : String)
  /-- A rule points at its own question. -/
  | selfTarget (source : String)
  /-- A condition asks for membership where one answer is given, or the other way round. -/
  | conditionNotApplicable (source : String) (kind : Kind) (condition : Rule.Condition)
  /-- A condition compares numbers where answers are none. -/
  | numericComparisonOnText (source : String) (kind : Kind)
  /-- A question has the id of an earlier one. -/
  | duplicateQuestionId (id : String)
  /-- A question that offers options has none. -/
  | noOptions (id : String)
  /-- A grid lacks rows or columns. -/
  | emptyMatrix (id : String)
  /-- The default language is not among those to choose from. -/
  | defaultLanguageNotEnabled (language : String)
deriving DecidableEq

/-- What is said of a problem. -/
def Finding.message : Finding → String
  | .unknownTarget source target =>
    "question '" ++ source ++ "' has a rule targeting unknown question '" ++ target ++ "'"
  | .selfTarget source => "question '" ++ source ++ "' has a rule targeting itself"
  | .conditionNotApplicable source kind condition =>
    "question '" ++ source ++ "' (" ++ kind.tag ++ ") uses condition " ++ condition.title ++
      ", which never matches for this type"
  | .numericComparisonOnText source kind =>
    "question '" ++ source ++ "' (" ++ kind.tag ++
      ") compares numerically, but its answers are not numbers"
  | .duplicateQuestionId id => "question id '" ++ id ++ "' is used more than once"
  | .noOptions id => "question '" ++ id ++ "' has no options"
  | .emptyMatrix id => "matrix question '" ++ id ++ "' needs rows and columns"
  | .defaultLanguageNotEnabled language =>
    "default language '" ++ language ++ "' is not in the enabled languages"

/-- The problem of what a question offers. -/
def Question.choiceFindings (q : Question) : List Finding :=
  match q.body with
  | .matrix grid =>
    if grid.rows.isEmpty || grid.columns.isEmpty then [.emptyMatrix q.id] else []
  | body => if q.kind.hasOptions && body.options.isEmpty then [.noOptions q.id] else []

/-- The problem of what a rule of a question points at, given the ids of all questions. -/
def Rule.targetFindings (ids : List String) (source : Question) (rule : Rule) : List Finding :=
  if !ids.contains rule.target then [.unknownTarget source.id rule.target]
  else if rule.target == source.id then [.selfTarget source.id]
  else []

/-- The problem of what a rule of a question compares. -/
def Rule.conditionFindings (source : Question) (rule : Rule) : List Finding :=
  if rule.condition.isMembership != source.kind.isMultiSelect then
    [.conditionNotApplicable source.id source.kind rule.condition]
  else if rule.condition.isNumeric && !source.kind.isNumericLike then
    [.numericComparisonOnText source.id source.kind]
  else []

namespace Survey

/-- The ids of the questions in authored order. -/
def ids (survey : Survey) : List String :=
  survey.questions.map Question.id

/-- The ids that occurred before, each at its later occurrences, given the ids already seen. -/
def repeatedIds (seen : List String) : List Question → List String
  | [] => []
  | q :: rest =>
    if seen.contains q.id then q.id :: repeatedIds seen rest else repeatedIds (q.id :: seen) rest

/-- The problem of the languages. -/
def languageFindings (survey : Survey) : List Finding :=
  if survey.settings.languages.contains survey.settings.defaultLanguage then []
  else [.defaultLanguageNotEnabled survey.settings.defaultLanguage]

/-- The problems of a question and its rules. -/
def questionFindings (survey : Survey) (q : Question) : List Finding :=
  q.choiceFindings ++
    q.rules.flatMap fun rule => rule.targetFindings survey.ids q ++ rule.conditionFindings q

/-- The problems of a survey. -/
def findings (survey : Survey) : List Finding :=
  (repeatedIds [] survey.questions).map .duplicateQuestionId ++ survey.languageFindings ++
    survey.questions.flatMap survey.questionFindings

end Survey

end Questionnaire
