import Questionnaire.Page.Markup
import Questionnaire.Survey.Basic

/-!
# The plain form

For readers whose browser runs no scripts, a page carries the whole survey as a plain form in the
default language. All questions are listed in authored order, whatever their rules say; those that
are answered are numbered, unless the survey hides the numbers.
-/

namespace Questionnaire.Page

/-- What the form depends on besides its questions. -/
structure FormStyle where
  /-- What the names of all classes start with. -/
  classPrefix : String
  /-- The language of the form. -/
  language : String
  /-- Whether questions carry numbers. -/
  numbering : Numbering
  /-- How required questions are marked. -/
  requiredMark : RequiredMark
deriving DecidableEq

namespace FormStyle

/-- The class attribute of a part of the form. -/
def className (style : FormStyle) (part : String) : Attribute :=
  attr "class" (style.classPrefix ++ "-" ++ part)

/-- A wording in the language of the form. -/
def resolve (style : FormStyle) (w : Wording) : String :=
  w.resolve style.language style.language

/-- A wording as text. -/
def text (style : FormStyle) (w : Wording) : List Token :=
  [.text (style.resolve w)]

/-- The mark of a required question. -/
def mark (style : FormStyle) : List Token :=
  match style.requiredMark with
  | .asterisk => element "span" [style.className "required"] [.text " *"]
  | .text => element "span" [style.className "required"] [.text " (required)"]
  | .none => []

/-- What stands over a question: its number, if numbers are shown, its wording, and its mark. -/
def label (style : FormStyle) (number : Nat) (q : Question) : List Token :=
  let wording := style.resolve q.text
  let shown := match style.numbering with
    | .visible => toString number ++ ". " ++ wording
    | .hidden => wording
  .text shown :: (if q.required then style.mark else [])

/-- A description, unless it is empty. -/
def description (style : FormStyle) (indent : Nat) (w : Wording) : List Token :=
  if w.isEmpty then []
  else line indent (element "p" [style.className "description"] (style.text w))

/-! ## Frames of questions -/

/-- A question that has a single field: a label that names it, the description, the field. -/
def field (style : FormStyle) (q : Question) (label content : List Token) : List Token :=
  line 2 [.start "div" [style.className "field"]] ++
    line 4 (element "label" [attr "for" q.id] label) ++
    style.description 4 q.description ++ content ++ line 2 [.stop "div"]

/-- A question that has several fields: a legend, the description, the fields. -/
def fieldset (style : FormStyle) (q : Question) (label content : List Token) : List Token :=
  line 2 [.start "fieldset" [style.className "field"]] ++
    line 4 (element "legend" [] label) ++
    style.description 4 q.description ++ content ++ line 2 [.stop "fieldset"]

/-! ## Fields -/

/-- The attributes that every single field has. -/
def fieldAttributes (style : FormStyle) (q : Question) : List Attribute :=
  [attr "id" q.id, attr "name" q.id, style.className "input"]

/-- An attribute for a bound, where there is one. -/
def boundAttribute {α : Type} (name : String) (toText : α → String) (bound : Option α) :
    List Attribute :=
  match bound with
  | some b => [attr name (toText b)]
  | none => []

/-- A button that is one of a group of the given name. -/
def radio (name value : String) : Token :=
  .start "input" [attr "type" "radio", attr "name" name, attr "value" value]

/-- Options to tick, one to a line. -/
def options (style : FormStyle) (inputType name : String) (choices : List Choice) : List Token :=
  choices.flatMap fun choice =>
    line 4 (element "label" [style.className "option"]
      [.start "input" [attr "type" inputType, attr "name" name, attr "value" choice.id],
       .text (" " ++ style.resolve choice.text)])

/-- Options in a list that unfolds, after one that stands for no answer. -/
def selection (style : FormStyle) (q : Question) (choices : List Choice) : List Token :=
  line 4 [.start "select" [attr "id" q.id, attr "name" q.id, style.className "select"]] ++
    line 6 (element "option" [attr "value" ""] []) ++
    (choices.flatMap fun choice =>
      line 6 (element "option" [attr "value" choice.id] (style.text choice.text))) ++
    line 4 [.stop "select"]

/-- The label at one end of a scale, unless it is empty. -/
def scaleLabel (style : FormStyle) (w : Wording) : List Token :=
  if w.isEmpty then []
  else line 6 (element "span" [style.className "likert-label"] (style.text w))

/-- The points of a scale between its labels. -/
def scale (style : FormStyle) (q : Question) (scale : RatingScale) : List Token :=
  line 4 [.start "div" [style.className "likert"]] ++
    style.scaleLabel scale.minLabel ++
    ((List.range scale.points.toNat).flatMap fun i =>
      let point := toString (i + 1)
      line 6 (element "label" [] [radio q.id point, .text (" " ++ point)])) ++
    style.scaleLabel scale.maxLabel ++
    line 4 [.stop "div"]

/-- A field for text, of one line or several. -/
def textField (style : FormStyle) (q : Question) (entry : TextEntry) : List Token :=
  let attributes := style.fieldAttributes q ++
    boundAttribute "maxlength" (fun max => toString (UInt64.toNat max)) entry.maxLength ++
    (if entry.placeholder.isEmpty then []
      else [attr "placeholder" (style.resolve entry.placeholder)])
  if entry.multiline then line 4 (element "textarea" (attr "rows" "4" :: attributes) [])
  else line 4 [.start "input" (attr "type" "text" :: attributes)]

/-- A field for a number. -/
def numberField (style : FormStyle) (q : Question) (entry : NumberEntry) : List Token :=
  line 4 [.start "input" (attr "type" "number" :: (style.fieldAttributes q ++
    boundAttribute "min" Number.toProse entry.min ++
    boundAttribute "max" Number.toProse entry.max ++
    [attr "step" ((entry.step.map Number.toProse).getD "any")]))]

/-- A field for a date. -/
def dateField (style : FormStyle) (q : Question) (entry : DateEntry) : List Token :=
  line 4 [.start "input" (attr "type" "date" :: (style.fieldAttributes q ++
    boundAttribute "min" Date.toText entry.min ++ boundAttribute "max" Date.toText entry.max))]

/-- The options of a ranking, in authored order. -/
def rankingList (style : FormStyle) (choices : List Choice) : List Token :=
  line 4 [.start "ol" [style.className "ranking"]] ++
    (choices.flatMap fun choice =>
      line 6 (element "li" [style.className "ranking-item"] (style.text choice.text))) ++
    line 4 [.stop "ol"]

/-- The name of the buttons in a row of a grid. -/
def rowName (q : Question) (row : Choice) : String :=
  q.id ++ "-" ++ row.id

/-- A table with a button for each cell of a grid; the buttons of a row are a group. -/
def gridTable (style : FormStyle) (q : Question) (grid : Grid) : List Token :=
  line 4 [.start "table" [style.className "matrix"]] ++
    line 6 (element "tr" [] (element "th" [] [] ++
      grid.columns.flatMap fun column => element "th" [] (style.text column.text))) ++
    (grid.rows.flatMap fun row =>
      line 6 (element "tr" [] (element "th" [] (style.text row.text) ++
        grid.columns.flatMap fun column => element "td" [] [radio (rowName q row) column.id]))) ++
    line 4 [.stop "table"]

/-- A field for files. -/
def fileField (style : FormStyle) (q : Question) (upload : Upload) : List Token :=
  line 4 [.start "input" (attr "type" "file" :: (style.fieldAttributes q ++
    (if upload.allowedTypes.isEmpty then []
      else [attr "accept" (String.intercalate "," upload.allowedTypes)]) ++
    (if upload.maxFiles = some 1 then [] else [⟨"multiple", none⟩])))]

/-! ## Questions -/

/-- A question under its label. -/
def question (style : FormStyle) (number : Nat) (q : Question) : List Token :=
  let label := style.label number q
  match q.body with
  | .sectionBreak =>
    line 2 (element "h2" [style.className "section-title"] (style.text q.text)) ++
      style.description 4 q.description
  | .multipleChoice pick => style.fieldset q label (style.options "radio" q.id pick.options)
  | .checkboxGroup pick => style.fieldset q label (style.options "checkbox" q.id pick.options)
  | .dropdown pick => style.field q label (style.selection q pick.options)
  | .likertScale scale => style.fieldset q label (style.scale q scale)
  | .openText entry => style.field q label (style.textField q entry)
  | .numeric entry => style.field q label (style.numberField q entry)
  | .date entry => style.field q label (style.dateField q entry)
  | .ranking order => style.fieldset q label (style.rankingList order.options)
  | .matrix grid => style.fieldset q label (style.gridTable q grid)
  | .fileUpload upload => style.field q label (style.fileField q upload)

/-- Questions one after the other, the first that is answered with the given number. -/
def questions (style : FormStyle) (number : Nat) : List Question → List Token
  | [] => []
  | q :: rest =>
    style.question number q ++
      style.questions (if q.isSectionBreak then number else number + 1) rest

end FormStyle

/-! ## The form -/

/-- The style of the form of a survey. -/
def FormStyle.of (survey : Survey) (classPrefix : String) : FormStyle :=
  ⟨classPrefix, survey.settings.defaultLanguage, survey.settings.numbering,
    survey.settings.requiredMark⟩

/-- The form of a survey. -/
def form (survey : Survey) (classPrefix : String) : List Token :=
  let style := FormStyle.of survey classPrefix
  line 0 [.start "form" [style.className "form"]] ++
    line 2 (element "h1" [style.className "title"] (style.text survey.title)) ++
    style.description 2 survey.description ++
    style.questions 1 survey.questions ++
    line 0 [.stop "form"]

/-- The written form of a survey. -/
def formText (survey : Survey) (classPrefix : String) : String :=
  render (form survey classPrefix)

end Questionnaire.Page
