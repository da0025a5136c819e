import Questionnaire.Page.Form
import Questionnaire.Proofs.Interview.Cursor
import Questionnaire.Proofs.Page.RadioNames

/-!
# Groups of radio buttons

Radio buttons that belong together share a name: those of a question have its id, and those of a row
of a grid have the id of the question and that of the row, with a hyphen between them. Ids can have
hyphens themselves. So where no two questions share an id, and no two rows of a grid, there is still
one way for two groups to get one name: the id of a question goes on, after a hyphen, with the
beginning of the id of a row, up to its end or to another hyphen (`RadioGroup.Collides`). The names
read from the form of a survey are the same for the buttons of one group and in this case, and in no
other (`radioNames_formText`).

Which buttons the form has is shown part by part. Most parts have none.
-/

namespace Questionnaire

/-! ## Groups -/

/-- The rows of a grid; other bodies have none. -/
def Body.rows : Body → List Choice
  | .matrix grid => grid.rows
  | _ => []

/-- No two rows of a grid share an id. -/
abbrev Survey.DistinctRowIds (survey : Survey) : Prop :=
  ∀ q ∈ survey.questions, (q.body.rows.map Choice.id).Nodup

/-- Radio buttons that belong together: those of a question, or those of a row of its grid. -/
structure RadioGroup where
  /-- The question. -/
  question : Question
  /-- The row, where the question has a grid. -/
  row : Option Choice
deriving DecidableEq

/-- The groups of the radio buttons of a question, button by button. -/
def Question.radios (q : Question) : List RadioGroup :=
  match q.body with
  | .multipleChoice pick => pick.options.map fun _ => ⟨q, none⟩
  | .likertScale scale => (List.range scale.points.toNat).map fun _ => ⟨q, none⟩
  | .matrix grid => grid.rows.flatMap fun row => grid.columns.map fun _ => ⟨q, some row⟩
  | _ => []

/-- The groups of the radio buttons of a survey, button by button in authored order. -/
def Survey.radios (survey : Survey) : List RadioGroup :=
  survey.questions.flatMap Question.radios

namespace RadioGroup

/-- The name of the buttons of a group. -/
def name (group : RadioGroup) : String :=
  match group.row with
  | some row => Page.FormStyle.rowName group.question row
  | none => group.question.id

/-- The name of the buttons of a group as it is written. -/
def writtenName (group : RadioGroup) : List Char :=
  Page.escapeChars group.name.toList

/-- The id of the second group's question goes on, after that of the first and a hyphen, with the
beginning of the id of the first group's row. -/
inductive Collides : RadioGroup → RadioGroup → Prop where
  /-- It takes up the whole id of the row, and there are no rows to tell from each other. -/
  | question {q other : Question} {row : Choice} (id_eq : other.id = q.id ++ "-" ++ row.id) :
      Collides ⟨q, some row⟩ ⟨other, none⟩
  /-- It takes up the id of the row to a hyphen, after which that of the other row stands. -/
  | row {q other : Question} {row otherRow : Choice} {middle : String}
      (id_eq : other.id = q.id ++ "-" ++ middle) (row_eq : row.id = middle ++ "-" ++ otherRow.id) :
      Collides ⟨q, some row⟩ ⟨other, some otherRow⟩

end RadioGroup

namespace Page

namespace FormStyle

/-! ## Words and frames of a form -/

variable (style : FormStyle) (q : Question)

@[simp]
theorem name_className (part : String) : (style.className part).name = "class" :=
  rfl

/-- The mark of a required question has no buttons. -/
theorem hasButtons_mark : HasButtons style.mark [] := by
  unfold mark
  cases style.requiredMark <;> constructor <;> simp +decide

/-- The label of a question has no buttons. -/
theorem hasButtons_label (number : ℕ) : HasButtons (style.label number q) [] := by
  unfold label
  cases q.required
  · exact ⟨rfl, rfl⟩
  · exact ⟨style.hasButtons_mark.regular, style.hasButtons_mark.buttons_eq⟩

/-- A description has no buttons. -/
theorem hasButtons_description (indent : ℕ) (w : Wording) :
    HasButtons (style.description indent w) [] := by
  unfold description
  split <;> constructor <;> simp +decide [text]

variable {style q} in
/-- A question with a single field has the buttons of the field. -/
theorem hasButtons_field {label content : List Token} {names : List String}
    (hlabel : HasButtons label []) (hcontent : HasButtons content names) :
    HasButtons (style.field q label content) names := by
  have hdescription := style.hasButtons_description 4 q.description
  constructor
  · simp +decide [field, hlabel.regular, hdescription.regular, hcontent.regular]
  · simp +decide [field, hlabel.buttons_eq, hdescription.buttons_eq, hcontent.buttons_eq]

variable {style q} in
/-- A question with several fields has the buttons of the fields. -/
theorem hasButtons_fieldset {label content : List Token} {names : List String}
    (hlabel : HasButtons label []) (hcontent : HasButtons content names) :
    HasButtons (style.fieldset q label content) names := by
  have hdescription := style.hasButtons_description 4 q.description
  constructor
  · simp +decide [fieldset, hlabel.regular, hdescription.regular, hcontent.regular]
  · simp +decide [fieldset, hlabel.buttons_eq, hdescription.buttons_eq, hcontent.buttons_eq]

/-! ## Fields with buttons -/

/-- Options of which one is ticked have a button each. -/
theorem hasButtons_options (name : String) (choices : List Choice) :
    HasButtons (style.options "radio" name choices) (choices.map fun _ => name) := by
  constructor
  · simp +decide [options]
  · simp +decide [options, List.map_eq_flatMap]

/-- The label at an end of a scale has no buttons. -/
theorem hasButtons_scaleLabel (w : Wording) : HasButtons (style.scaleLabel w) [] := by
  unfold scaleLabel
  split <;> constructor <;> simp +decide [text]

/-- A scale has a button for each point. -/
theorem hasButtons_scale (scale : RatingScale) :
    HasButtons (style.scale q scale) ((List.range scale.points.toNat).map fun _ => q.id) := by
  have hlabel := style.hasButtons_scaleLabel
  constructor
  · simp +decide [FormStyle.scale, radio, (hlabel _).regular]
  · simp +decide [FormStyle.scale, radio, (hlabel _).buttons_eq, List.map_eq_flatMap]

/-- A grid has a button for each of its cells, row by row. -/
theorem hasButtons_gridTable (grid : Grid) :
    HasButtons (style.gridTable q grid)
      (grid.rows.flatMap fun row => grid.columns.map fun _ => rowName q row) := by
  have hheadings : (grid.columns.flatMap fun _ => ([] : List String)) = [] := by simp
  constructor
  · simp +decide [gridTable, text, radio]
  · simp +decide [gridTable, text, radio, hheadings, List.map_eq_flatMap]

/-! ## Fields without buttons -/

/-- The names of the attributes that every single field has are such. -/
@[simp]
theorem all_isName_fieldAttributes :
    ((style.fieldAttributes q).all fun a => isName a.name) = true := by
  simp +decide [fieldAttributes]

/-- A bound has the name given. -/
@[simp]
theorem all_isName_boundAttribute {α : Type} {name : String} (hname : isName name = true)
    (toText : α → String) (bound : Option α) :
    ((boundAttribute name toText bound).all fun a => isName a.name) = true := by
  cases bound <;> simp [boundAttribute, hname]

/-- Options of which any number is ticked are no radio buttons. -/
theorem hasButtons_checkboxes (name : String) (choices : List Choice) :
    HasButtons (style.options "checkbox" name choices) [] := by
  constructor <;> simp +decide [options]

/-- Options in a list that unfolds are no buttons. -/
theorem hasButtons_selection (choices : List Choice) :
    HasButtons (style.selection q choices) [] := by
  constructor <;> simp +decide [selection, text]

/-- A field for text has no buttons. -/
theorem hasButtons_textField (entry : TextEntry) : HasButtons (style.textField q entry) [] := by
  unfold textField
  cases entry.multiline <;> cases entry.placeholder.isEmpty <;> constructor <;> simp +decide

/-- A field for a number has no buttons. -/
theorem hasButtons_numberField (entry : NumberEntry) :
    HasButtons (style.numberField q entry) [] := by
  constructor <;> simp +decide [numberField]

/-- A field for a date has no buttons. -/
theorem hasButtons_dateField (entry : DateEntry) : HasButtons (style.dateField q entry) [] := by
  constructor <;> simp +decide [dateField]

/-- The options of a ranking are no buttons. -/
theorem hasButtons_rankingList (choices : List Choice) :
    HasButtons (style.rankingList choices) [] := by
  constructor <;> simp +decide [rankingList, text]

/-- A field for files has no buttons. -/
theorem hasButtons_fileField (upload : Upload) : HasButtons (style.fileField q upload) [] := by
  unfold fileField
  split <;> split <;> constructor <;> simp +decide

/-! ## Questions -/

/-- A question has the buttons of its groups, of whatever kind it is. -/
theorem hasButtons_question (number : ℕ) :
    HasButtons (style.question number q) (q.radios.map RadioGroup.name) := by
  have hlabel := style.hasButtons_label q number
  unfold question Question.radios
  cases q.body with
  | sectionBreak =>
    have hdescription := style.hasButtons_description 4 q.description
    constructor
    · simp +decide [text, hdescription.regular]
    · simp +decide [text, hdescription.buttons_eq]
  | multipleChoice pick =>
    simpa [RadioGroup.name] using hasButtons_fieldset hlabel (style.hasButtons_options q.id _)
  | checkboxGroup pick => exact hasButtons_fieldset hlabel (style.hasButtons_checkboxes _ _)
  | dropdown pick => exact hasButtons_field hlabel (style.hasButtons_selection q _)
  | likertScale scale =>
    simpa [RadioGroup.name] using hasButtons_fieldset hlabel (style.hasButtons_scale q scale)
  | openText entry => exact hasButtons_field hlabel (style.hasButtons_textField q entry)
  | numeric entry => exact hasButtons_field hlabel (style.hasButtons_numberField q entry)
  | date entry => exact hasButtons_field hlabel (style.hasButtons_dateField q entry)
  | ranking order => exact hasButtons_fieldset hlabel (style.hasButtons_rankingList _)
  | matrix grid =>
    simpa [RadioGroup.name, List.map_flatMap] using
      hasButtons_fieldset hlabel (style.hasButtons_gridTable q grid)
  | fileUpload upload => exact hasButtons_field hlabel (style.hasButtons_fileField q upload)

/-- Questions one after the other have the buttons of all their groups. -/
theorem hasButtons_questions (number : ℕ) (questions : List Question) :
    HasButtons (style.questions number questions)
      ((questions.flatMap Question.radios).map RadioGroup.name) := by
  induction questions generalizing number with
  | nil => exact .nil
  | cons q rest ih =>
    rw [List.flatMap_cons, List.map_append]
    exact (style.hasButtons_question q number).append (ih _)

end FormStyle

/-- The form of a survey has the buttons of all its groups. -/
theorem hasButtons_form (survey : Survey) (classPrefix : String) :
    HasButtons (form survey classPrefix) (survey.radios.map RadioGroup.name) := by
  have hdescription := (FormStyle.of survey classPrefix).hasButtons_description 2 survey.description
  have hquestions := (FormStyle.of survey classPrefix).hasButtons_questions 1 survey.questions
  constructor
  · simp +decide [form, FormStyle.text, hdescription.regular, hquestions.regular]
  · simp +decide [form, FormStyle.text, hdescription.buttons_eq, hquestions.buttons_eq,
      Survey.radios]

/-- The names of radio buttons in the form of a survey are those of its groups. -/
theorem radioNames_formText_eq (survey : Survey) (classPrefix : String) :
    radioNames (formText survey classPrefix).toList =
      survey.radios.map RadioGroup.writtenName := by
  rw [formText, (hasButtons_form survey classPrefix).radioNames_render, List.map_map]
  rfl

end Page

/-! ## Groups of one name -/

/-- Of two texts joined by a hyphen each, that are the same together, the parts are the same, or one
of the first goes on after a hyphen. -/
theorem hyphen_cases {a b c d : String} (h : a ++ "-" ++ b = c ++ "-" ++ d) :
    (a = c ∧ b = d) ∨ (∃ middle, c = a ++ "-" ++ middle ∧ b = middle ++ "-" ++ d) ∨
      ∃ middle, a = c ++ "-" ++ middle ∧ d = middle ++ "-" ++ b := by
  have hhyphen : "-".toList = ['-'] := rfl
  have hlist : a.toList ++ '-' :: b.toList = c.toList ++ '-' :: d.toList := by
    simpa [String.toList_append, hhyphen] using congrArg String.toList h
  simp only [← String.toList_inj, String.toList_append, hhyphen]
  -- Of the first texts one starts the other; if that is longer, it goes on with the other's hyphen.
  rcases List.append_eq_append_iff.1 hlist with ⟨more, hc, hb⟩ | ⟨more, ha, hd⟩
  · cases more with
    | nil => exact .inl ⟨by simpa using hc.symm, by simpa using hb⟩
    | cons x more =>
      obtain ⟨rfl, hb⟩ := List.cons.inj hb
      exact .inr (.inl ⟨String.ofList more, by simp [hc], by simpa using hb⟩)
  · cases more with
    | nil => exact .inl ⟨by simpa using ha, by simpa using hd.symm⟩
    | cons x more =>
      obtain ⟨rfl, hd⟩ := List.cons.inj hd
      exact .inr (.inr ⟨String.ofList more, by simp [ha], by simpa using hd⟩)

variable {survey : Survey}

/-- A group is of a question of the survey, and if it is of a row, of one of its rows. -/
theorem Survey.mem_radios {group : RadioGroup} (h : group ∈ survey.radios) :
    group.question ∈ survey.questions ∧ ∀ row ∈ group.row, row ∈ group.question.body.rows := by
  obtain ⟨q, hq, hgroup⟩ := List.mem_flatMap.1 h
  unfold Question.radios at hgroup
  split at hgroup
  case h_1 pick heq =>
    obtain ⟨-, -, rfl⟩ := List.mem_map.1 hgroup
    exact ⟨hq, by simp⟩
  case h_2 scale heq =>
    obtain ⟨-, -, rfl⟩ := List.mem_map.1 hgroup
    exact ⟨hq, by simp⟩
  case h_3 grid heq =>
    obtain ⟨row, hrow, hgroup⟩ := List.mem_flatMap.1 hgroup
    obtain ⟨-, -, rfl⟩ := List.mem_map.1 hgroup
    exact ⟨hq, by simpa [heq, Body.rows] using hrow⟩
  case h_4 => cases hgroup

namespace RadioGroup

variable {g h : RadioGroup}

/-- Groups that collide have one name. -/
theorem Collides.name_eq (hcollides : g.Collides h) : g.name = h.name := by
  cases hcollides with
  | question id_eq => exact id_eq.symm
  | row id_eq row_eq => simp [name, Page.FormStyle.rowName, id_eq, row_eq, String.append_assoc]

/-- Groups of one name are one group, or they collide. -/
theorem eq_or_collides_of_name_eq (hids : survey.DistinctIds) (hrows : survey.DistinctRowIds)
    (hg : g ∈ survey.radios) (hh : h ∈ survey.radios) (hname : g.name = h.name) :
    g = h ∨ g.Collides h ∨ h.Collides g := by
  obtain ⟨q, row⟩ := g
  obtain ⟨other, otherRow⟩ := h
  obtain ⟨hq, hrow⟩ := Survey.mem_radios hg
  obtain ⟨hother, hotherRow⟩ := Survey.mem_radios hh
  have hquestion : q.id = other.id → q = other := List.inj_on_of_nodup_map hids hq hother
  cases row with
  | none =>
    cases otherRow with
    | none => exact .inl (congrArg (RadioGroup.mk · none) (hquestion hname))
    | some otherRow => exact .inr (.inr (.question hname))
  | some row =>
    cases otherRow with
    | none => exact .inr (.inl (.question hname.symm))
    | some otherRow =>
      rcases hyphen_cases hname with ⟨hid, hrowId⟩ | ⟨middle, hid, hrowId⟩ | ⟨middle, hid, hrowId⟩
      · obtain rfl := hquestion hid
        obtain rfl : row = otherRow := List.inj_on_of_nodup_map (hrows q hq) (hrow row rfl)
          (hotherRow otherRow rfl) hrowId
        exact .inl rfl
      · exact .inr (.inl (.row hid hrowId))
      · exact .inr (.inr (.row hid hrowId))

end RadioGroup

namespace Page

/-- The names of the radio buttons that are read from the form of a survey are those of the groups,
button by button. Where ids are distinct, two of them are the same for the buttons of one group, for
those of groups that collide, and for no others. -/
theorem radioNames_formText (classPrefix : String) (hids : survey.DistinctIds)
    (hrows : survey.DistinctRowIds) :
    radioNames (formText survey classPrefix).toList = survey.radios.map RadioGroup.writtenName ∧
      ∀ g ∈ survey.radios, ∀ h ∈ survey.radios,
        (g.writtenName = h.writtenName ↔ g = h ∨ g.Collides h ∨ h.Collides g) := by
  refine ⟨radioNames_formText_eq survey classPrefix, fun g hg h hh => ⟨fun hwritten => ?_, ?_⟩⟩
  · have hname : g.name = h.name := String.toList_inj.1 (escapeChars_injective hwritten)
    exact RadioGroup.eq_or_collides_of_name_eq hids hrows hg hh hname
  · rintro (rfl | hcollides | hcollides)
    · rfl
    · rw [RadioGroup.writtenName, hcollides.name_eq, RadioGroup.writtenName]
    · rw [RadioGroup.writtenName, ← hcollides.name_eq, RadioGroup.writtenName]

/-- A survey about buses with a grid, whose rows are the times of day, and a question on its own
that has the id of the grid and a time of day for its id. -/
def busSurvey : Survey where
  id := "transit"
  title := .plain "Transit"
  questions :=
    [{ id := "bus", text := .plain "How are the buses?",
       body := .matrix {
         rows := [⟨"day", .plain "By day"⟩, ⟨"night", .plain "At night"⟩]
         columns := [⟨"good", .plain "Good"⟩, ⟨"bad", .plain "Bad"⟩] } },
     { id := "bus-day", text := .plain "Do you have a day ticket?",
       body := .multipleChoice { options := [⟨"yes", .plain "Yes"⟩, ⟨"no", .plain "No"⟩] } }]

/-- In the form about buses the row of the day shares its name with the question about tickets, and
the row of the night has its own. -/
theorem radioNames_formText_busSurvey :
    busSurvey.DistinctIds ∧ busSurvey.DistinctRowIds ∧
      radioNames (formText busSurvey "survey").toList =
        ["bus-day", "bus-day", "bus-night", "bus-night", "bus-day", "bus-day"].map String.toList ∧
      ∀ g ∈ busSurvey.radios, ∀ h ∈ busSurvey.radios,
        (g.writtenName = h.writtenName ↔ g = h ∨ g.Collides h ∨ h.Collides g) := by
  have hids : busSurvey.DistinctIds := by decide
  have hrows : busSurvey.DistinctRowIds := by decide
  obtain ⟨hnames, hsame⟩ := radioNames_formText "survey" hids hrows
  exact ⟨hids, hrows, hnames.trans (by decide), hsame⟩

/-- Distinct ids of questions and of rows do not keep the buttons of different groups from having
one name. -/
theorem not_forall_eq_of_radioNames_eq :
    ¬ ∀ (survey : Survey) (classPrefix : String), survey.DistinctIds → survey.DistinctRowIds →
      ∀ (m n : ℕ) (g h : RadioGroup) (name : List Char),
        survey.radios[m]? = some g → survey.radios[n]? = some h →
        (radioNames (formText survey classPrefix).toList)[m]? = some name →
        (radioNames (formText survey classPrefix).toList)[n]? = some name → g = h := by
  intro hall
  have hnames := radioNames_formText_eq busSurvey "survey"
  have heq := hall busSurvey "survey" (by decide) (by decide) 0 4 _ _ "bus-day".toList rfl rfl
    (by rw [hnames]; decide) (by rw [hnames]; decide)
  exact absurd heq (by decide)

end Page

end Questionnaire
