import Questionnaire.Calendar.Moment
import Questionnaire.Page.Form
import Questionnaire.Page.Stylesheet

/-!
# The document

A survey is exported as one page that needs nothing else: the style sheet, the survey itself as JSON
in a script element, the scripts that bring it to life, and the plain form for readers without them.

The JSON block ends at the first `</` that a browser sees, so none may stand in it: it is written
`<\/`, which means the same inside a JSON string, and `<!--` is written with the code of its first
character.
-/

namespace Questionnaire.Page

/-- How a page is made. -/
structure Options where
  /-- The title; that of the survey where none is given. -/
  title : Option String := none
  /-- Whether the style sheet is part of the page. -/
  includeStyles : Bool := true
  /-- What the names of all classes start with. -/
  classPrefix : String := "survey"
  /-- The addresses of scripts to load before all others. -/
  libraries : List String := []
  /-- When the page was made, if it is to say so. -/
  generatedAt : Option Moment := none
deriving DecidableEq

/-- A page and the name to keep it under. -/
structure Artifact where
  /-- The page. -/
  html : String
  /-- A name for the file. -/
  fileName : String
deriving DecidableEq

/-! ## File names -/

/-- The runs of letters and digits of ASCII in a text, made small; `current` is the run so far, its
last character first. -/
def slugWords (current : List Char) : List Char → List (List Char)
  | [] => if current.isEmpty then [] else [current.reverse]
  | c :: rest =>
    if c.isAlphanum then slugWords (c.toLower :: current) rest
    else if current.isEmpty then slugWords [] rest
    else current.reverse :: slugWords [] rest

/-- The runs of letters and digits joined by hyphens. -/
def slug (s : String) : String :=
  String.ofList (List.intercalate ['-'] (slugWords [] s.toList))

/-- The name of a file for a page: from the title, else from the id of the survey, else a common
one. -/
def fileName (title id : String) : String :=
  let stem :=
    if slug title ≠ "" then slug title
    else if slug id ≠ "" then slug id
    else "survey"
  stem ++ ".html"

/-! ## The JSON block -/

/-- The text with each `</` written as `<\/`. -/
def maskClosers : List Char → List Char
  | '<' :: '/' :: rest => '<' :: '\\' :: '/' :: maskClosers rest
  | c :: rest => c :: maskClosers rest
  | [] => []

/-- The text with the first character of each `<!--` written as its code. -/
def maskComments : List Char → List Char
  | '<' :: '!' :: '-' :: '-' :: rest =>
    '\\' :: 'u' :: '0' :: '0' :: '3' :: 'c' :: '!' :: '-' :: '-' :: maskComments rest
  | c :: rest => c :: maskComments rest
  | [] => []

/-- The survey as JSON that may stand in a script element. -/
def embeddedSurvey (survey : Survey) : String :=
  String.ofList (maskComments (maskClosers (survey.toJson.write .compact 0)))

/-! ## The page -/

/-- The title of a page: the one asked for, else that of the survey in its default language, else
the id of the survey. -/
def documentTitle (survey : Survey) (options : Options) : String :=
  match options.title with
  | some title => title
  | none =>
    let language := survey.settings.defaultLanguage
    let title := survey.title.resolve language language
    if title.isEmpty then survey.id else title

/-- A line that tells a browser something about the page. -/
def metaLine (attributes : List Attribute) : List Token :=
  line 2 [.start "meta" attributes]

/-- The head of a page. -/
def documentHead (survey : Survey) (options : Options) (title : String) : List Token :=
  line 0 [.start "head" []] ++
    metaLine [attr "charset" "UTF-8"] ++
    metaLine [attr "name" "viewport", attr "content" "width=device-width, initial-scale=1.0"] ++
    metaLine [attr "name" "generator", attr "content" "surveyor-export-html"] ++
    (match options.generatedAt with
      | some moment => metaLine [attr "name" "generated-at", attr "content" moment.toText]
      | none => []) ++
    line 2 (element "title" [] [.text title]) ++
    (if options.includeStyles then
      line 2 [.start "style" []] ++
        [.fixed (stylesheet survey.settings.theme options.classPrefix)] ++
        line 2 [.stop "style"]
    else []) ++
    (options.libraries.flatMap fun url => line 2 (element "script" [attr "src" url] [])) ++
    line 0 [.stop "head"]

/-- The body of a page; the given scripts come last, each as it is to stand in the page. -/
def documentBody (survey : Survey) (options : Options) (scripts : List String) : List Token :=
  line 0 [.start "body" []] ++
    line 0 (element "div" [attr "id" "survey-root", attr "class" (options.classPrefix ++ "-root"),
      attr "data-class-prefix" options.classPrefix] []) ++
    line 0 [.start "noscript" []] ++ form survey options.classPrefix ++
    line 0 [.stop "noscript"] ++
    line 0 (element "script" [attr "type" "application/json", attr "id" "survey-definition"]
      [.fixed (embeddedSurvey survey)]) ++
    scripts.map .fixed ++
    line 0 [.stop "body"]

/-- The whole page. -/
def document (survey : Survey) (options : Options) (scripts : List String) : List Token :=
  .fixed "<!DOCTYPE html>\n" ::
    (line 0 [.start "html" [attr "lang" survey.settings.defaultLanguage]] ++
      documentHead survey options (documentTitle survey options) ++
      documentBody survey options scripts ++ line 0 [.stop "html"])

/-- The page of a survey, with the given scripts, and a name for its file. -/
def compile (survey : Survey) (options : Options) (scripts : List String) : Artifact where
  html := render (document survey options scripts)
  fileName := fileName (documentTitle survey options) survey.id

end Questionnaire.Page
