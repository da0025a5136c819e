import Questionnaire.Json.Shape
import Questionnaire.Wording

/-!
# Settings

The settings of a survey say which languages it has, how it looks, in which order and by which steps
its questions are presented. Every setting has a default, so a survey may give only those it cares
about. The theme has no object of its own: its fields stand among the other settings.
-/

namespace Questionnaire

open Json (Fault)

/-- The colours and the font of an exported survey. -/
structure Theme where
  /-- The colour of titles, marks and buttons. -/
  primaryColor : String := "#3b82f6"
  /-- The colour behind everything. -/
  backgroundColor : String := "#ffffff"
  /-- The colour of text. -/
  textColor : String := "#1f2937"
  /-- The font, as a list of families. -/
  fontFamily : String := "Inter, system-ui, sans-serif"
deriving DecidableEq

/-- How respondents get from one question to the next. -/
inductive Navigation where
  /-- By asking for it. -/
  | manual
  /-- By giving a valid answer. -/
  | autoAdvance
deriving DecidableEq

/-- Whether questions carry numbers. -/
inductive Numbering where
  /-- Numbers are shown. -/
  | visible
  /-- Numbers are not shown. -/
  | hidden
deriving DecidableEq

/-- How required questions are marked. -/
inductive RequiredMark where
  /-- By a star. -/
  | asterisk
  /-- By a word. -/
  | text
  /-- Not at all. -/
  | none
deriving DecidableEq

/-- The settings of a survey. -/
structure Settings where
  /-- The language that stands in for others. -/
  defaultLanguage : String := "en"
  /-- The languages respondents may choose. -/
  languages : List String := ["en"]
  /-- How the survey looks. -/
  theme : Theme := {}
  /-- Whether questions are shuffled. -/
  randomizeQuestions : Bool := false
  /-- Whether shuffled questions stay in their section. -/
  respectSections : Bool := false
  /-- Whether progress is shown. -/
  showProgressBar : Bool := true
  /-- Whether the answers are shown at the end. -/
  showResponseSummary : Bool := false
  /-- How respondents get on. -/
  navigation : Navigation := .manual
  /-- Whether questions carry numbers. -/
  numbering : Numbering := .visible
  /-- How required questions are marked. -/
  requiredMark : RequiredMark := .asterisk
  /-- What is said at the end. -/
  completionMessage : Wording := .plain "Thank you for your response!"
deriving DecidableEq

/-- Whether respondents may choose a language: the default one, or a listed one. -/
def Settings.supportsLanguage (settings : Settings) (language : String) : Bool :=
  language == settings.defaultLanguage || settings.languages.contains language

/-- The locale in which a survey starts. -/
def Settings.locale (settings : Settings) : Locale :=
  ⟨settings.defaultLanguage, settings.defaultLanguage⟩

/-! ## Settings as JSON -/

/-- The spellings of the ways to get on. -/
def Navigation.spellings : List (String × Navigation) :=
  [("manual", .manual), ("auto-advance", .autoAdvance)]

/-- The spelling of a way to get on. -/
def Navigation.spelling : Navigation → String
  | .manual => "manual"
  | .autoAdvance => "auto-advance"

/-- The spellings of the numberings. -/
def Numbering.spellings : List (String × Numbering) :=
  [("visible", .visible), ("hidden", .hidden)]

/-- The spelling of a numbering. -/
def Numbering.spelling : Numbering → String
  | .visible => "visible"
  | .hidden => "hidden"

/-- The spellings of the marks. -/
def RequiredMark.spellings : List (String × RequiredMark) :=
  [("asterisk", .asterisk), ("text", .text), ("none", .none)]

/-- The spelling of a mark. -/
def RequiredMark.spelling : RequiredMark → String
  | .asterisk => "asterisk"
  | .text => "text"
  | .none => "none"

namespace Theme

/-- The names of the fields of a theme. -/
def fieldNames : List String :=
  ["primaryColor", "backgroundColor", "textColor", "fontFamily"]

/-- The fields of a theme. -/
def toFields (theme : Theme) : Json.Fields :=
  [("primaryColor", .text theme.primaryColor), ("backgroundColor", .text theme.backgroundColor),
   ("textColor", .text theme.textColor), ("fontFamily", .text theme.fontFamily)]

/-- The theme that fields make up. -/
def ofFields (fields : Json.Fields) : Except Fault Theme := do
  let default : Theme := {}
  return {
    primaryColor := ← fields.defaulted "primaryColor" default.primaryColor Json.asText
    backgroundColor := ← fields.defaulted "backgroundColor" default.backgroundColor Json.asText
    textColor := ← fields.defaulted "textColor" default.textColor Json.asText
    fontFamily := ← fields.defaulted "fontFamily" default.fontFamily Json.asText }

/-- The theme that a JSON value holds. -/
def ofJson (value : Json) : Except Fault Theme := do
  ofFields (← value.asRecord fieldNames .malformed)

end Theme

namespace Settings

/-- The names of the settings that are not part of the theme. -/
def fieldNames : List String :=
  ["defaultLanguage", "languages", "randomizeQuestions", "respectSections", "showProgressBar",
   "showResponseSummary", "navigationStyle", "questionNumbering", "requiredIndicator",
   "completionMessage"]

/-- Settings as JSON. -/
def toJson (settings : Settings) : Json :=
  .object (
    [("defaultLanguage", .text settings.defaultLanguage),
     ("languages", Json.ofList Json.text settings.languages)] ++ settings.theme.toFields ++
    [("randomizeQuestions", .bool settings.randomizeQuestions),
     ("respectSections", .bool settings.respectSections),
     ("showProgressBar", .bool settings.showProgressBar),
     ("showResponseSummary", .bool settings.showResponseSummary),
     ("navigationStyle", .text settings.navigation.spelling),
     ("questionNumbering", .text settings.numbering.spelling),
     ("requiredIndicator", .text settings.requiredMark.spelling),
     ("completionMessage", settings.completionMessage.toJson)])

/-- The settings that the members of an object make up. -/
def ofFields (fields : Json.Fields) : Except Fault Settings := do
  if fields.repeats fieldNames then throw .misshapen
  let others : Json.Fields := fields.filter fun field => !fieldNames.contains field.1
  if !Json.legibleMembers others then throw .malformed
  if others.repeats Theme.fieldNames then throw .misshapen
  let default : Settings := {}
  return {
    defaultLanguage := ← fields.defaulted "defaultLanguage" default.defaultLanguage Json.asText
    languages := ← fields.defaulted "languages" default.languages (Json.asList Json.asText)
    theme := ← Theme.ofFields others
    randomizeQuestions :=
      ← fields.defaulted "randomizeQuestions" default.randomizeQuestions Json.asBool
    respectSections := ← fields.defaulted "respectSections" default.respectSections Json.asBool
    showProgressBar := ← fields.defaulted "showProgressBar" default.showProgressBar Json.asBool
    showResponseSummary :=
      ← fields.defaulted "showResponseSummary" default.showResponseSummary Json.asBool
    navigation := ← fields.defaulted "navigationStyle" default.navigation
      (Json.asOneOf Navigation.spellings)
    numbering := ← fields.defaulted "questionNumbering" default.numbering
      (Json.asOneOf Numbering.spellings)
    requiredMark := ← fields.defaulted "requiredIndicator" default.requiredMark
      (Json.asOneOf RequiredMark.spellings)
    completionMessage :=
      ← fields.defaulted "completionMessage" default.completionMessage Wording.ofJson }

/-- The settings that a JSON value holds. -/
def ofJson : Json → Except Fault Settings
  | .object members => ofFields members
  | other => .error other.wrongShape

end Settings

end Questionnaire
