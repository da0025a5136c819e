import Questionnaire.Page.Form
import Questionnaire.Proofs.Page.Tags

/-!
# The form is tame

The plain form of a survey stands in the page before the survey itself. Whatever the survey, no part
of the form can be taken for the tag that the survey stands after (`tame_form`): the lemmas go up
from the marks and labels through the kinds of fields to the questions.
-/

namespace Questionnaire.Page

namespace FormStyle

variable (style : FormStyle) (q : Question)

/-! ## Words -/

/-- A wording is text. -/
@[simp]
theorem tame_wording (w : Wording) : Tame (style.text w) := by
  simp [text]

/-- The mark of a required question is tame. -/
@[simp]
theorem tame_mark : Tame style.mark := by
  unfold mark
  split <;> simp +decide [className]

/-- The label of a question is tame. -/
@[simp]
theorem tame_label (number : ℕ) : Tame (style.label number q) := by
  unfold label
  cases q.required <;> simp

/-- A description is tame. -/
@[simp]
theorem tame_description (indent : ℕ) (w : Wording) : Tame (style.description indent w) := by
  unfold description
  split <;> simp +decide [className]

/-! ## Frames of questions -/

variable {style q} in
/-- A question with a single field is tame if its label and its field are. -/
theorem tame_field {label content : List Token} (hlabel : Tame label) (hcontent : Tame content) :
    Tame (style.field q label content) := by
  simp +decide [field, className, hlabel, hcontent]

variable {style q} in
/-- A question with several fields is tame if its label and its fields are. -/
theorem tame_fieldset {label content : List Token} (hlabel : Tame label) (hcontent : Tame content) :
    Tame (style.fieldset q label content) := by
  simp +decide [fieldset, className, hlabel, hcontent]

/-! ## Fields -/

/-- No tag starts in the names of the attributes that every single field has. -/
@[simp]
theorem plain_fieldAttributes : Plain (style.fieldAttributes q) := by
  simp +decide [fieldAttributes, className]

/-- No tag starts in the name of a bound, unless one starts in the name given. -/
@[simp]
theorem plain_boundAttribute {α : Type} {name : String} (hname : '<' ∉ name.toList)
    (toText : α → String) (bound : Option α) : Plain (boundAttribute name toText bound) := by
  cases bound <;> simp [boundAttribute, hname]

/-- Options to tick are tame. -/
theorem tame_options (inputType name : String) (choices : List Choice) :
    Tame (style.options inputType name choices) := by
  simp +decide [options, className]

/-- Options in a list that unfolds are tame. -/
theorem tame_selection (choices : List Choice) : Tame (style.selection q choices) := by
  simp +decide [selection, className]

/-- The label at an end of a scale is tame. -/
theorem tame_scaleLabel (w : Wording) : Tame (style.scaleLabel w) := by
  unfold scaleLabel
  split <;> simp +decide [className]

/-- The points of a scale are tame. -/
theorem tame_scale (scale : RatingScale) : Tame (style.scale q scale) := by
  simp +decide [FormStyle.scale, className, radio, tame_scaleLabel]

/-- A field for text is tame. -/
theorem tame_textField (entry : TextEntry) : Tame (style.textField q entry) := by
  unfold textField
  cases entry.multiline <;> cases entry.placeholder.isEmpty <;> simp +decide

/-- A field for a number is tame. -/
theorem tame_numberField (entry : NumberEntry) : Tame (style.numberField q entry) := by
  simp +decide [numberField]

/-- A field for a date is tame. -/
theorem tame_dateField (entry : DateEntry) : Tame (style.dateField q entry) := by
  simp +decide [dateField]

/-- The options of a ranking are tame. -/
theorem tame_rankingList (choices : List Choice) : Tame (style.rankingList choices) := by
  simp +decide [rankingList, className]

/-- The table of a grid is tame. -/
theorem tame_gridTable (grid : Grid) : Tame (style.gridTable q grid) := by
  simp +decide [gridTable, className, radio]

/-- A field for files is tame. -/
theorem tame_fileField (upload : Upload) : Tame (style.fileField q upload) := by
  unfold fileField
  split <;> split <;> simp +decide

/-! ## Questions -/

/-- A question is tame, of whatever kind it is. -/
theorem tame_question (number : ℕ) : Tame (style.question number q) := by
  unfold question
  have hlabel := style.tame_label q number
  cases q.body with
  | sectionBreak => simp +decide [className]
  | multipleChoice pick => exact tame_fieldset hlabel (style.tame_options _ _ _)
  | checkboxGroup pick => exact tame_fieldset hlabel (style.tame_options _ _ _)
  | dropdown pick => exact tame_field hlabel (style.tame_selection q _)
  | likertScale scale => exact tame_fieldset hlabel (style.tame_scale q scale)
  | openText entry => exact tame_field hlabel (style.tame_textField q entry)
  | numeric entry => exact tame_field hlabel (style.tame_numberField q entry)
  | date entry => exact tame_field hlabel (style.tame_dateField q entry)
  | ranking order => exact tame_fieldset hlabel (style.tame_rankingList _)
  | matrix grid => exact tame_fieldset hlabel (style.tame_gridTable q grid)
  | fileUpload upload => exact tame_field hlabel (style.tame_fileField q upload)

/-- Questions one after the other are tame. -/
theorem tame_questions (number : ℕ) (questions : List Question) :
    Tame (style.questions number questions) := by
  induction questions generalizing number with
  | nil => exact tame_nil
  | cons q rest ih => exact tame_append.2 ⟨style.tame_question q number, ih _⟩

end FormStyle

/-- The form of a survey is tame. -/
theorem tame_form (survey : Survey) (classPrefix : String) : Tame (form survey classPrefix) := by
  simp +decide [form, FormStyle.className, FormStyle.tame_questions]

end Questionnaire.Page
