import Questionnaire.Page.Form
import Questionnaire.Proofs.Page.Tags

/-!
# Forms of one shape

What the texts of a survey say has no influence on the markup of its form. Two surveys are of one
shape if they have the same kinds of questions in the same order, with as many options, rows and
columns, and if the same parts of a question are there or missing; which words, ids, numbers and
dates stand in these parts plays no role (`Survey.SameShape`). The characters that delimit tags and
the values of attributes are then the same in both forms, in the same order
(`delimiters_formText_eq`). So whatever is written into a survey, it adds no markup to the form.

All texts of a survey get into the form as text or as values of attributes. There they are escaped
and have no such character, so what is left is what the form itself writes. The lemmas go up from
the tokens through the parts of a question to the questions.
-/

namespace Questionnaire

/-! ## Shapes -/

/-- Two bodies are of one kind, have as much of everything that is counted, and the same parts. -/
inductive Body.SameShape : Body → Body → Prop where
  /-- As many options, all in view. -/
  | multipleChoice {pick other : PickOne} (options : pick.options.length = other.options.length) :
      SameShape (.multipleChoice pick) (.multipleChoice other)
  /-- As many options to pick any of. -/
  | checkboxGroup {pick other : PickMany} (options : pick.options.length = other.options.length) :
      SameShape (.checkboxGroup pick) (.checkboxGroup other)
  /-- As many points, and labels at the same ends. -/
  | likertScale {scale other : RatingScale} (points : scale.points = other.points)
      (minLabel : scale.minLabel.isEmpty = other.minLabel.isEmpty)
      (maxLabel : scale.maxLabel.isEmpty = other.maxLabel.isEmpty) :
      SameShape (.likertScale scale) (.likertScale other)
  /-- One line or several in both, a greatest length and a placeholder in both or in none. -/
  | openText {entry other : TextEntry} (multiline : entry.multiline = other.multiline)
      (maxLength : entry.maxLength.isSome = other.maxLength.isSome)
      (placeholder : entry.placeholder.isEmpty = other.placeholder.isEmpty) :
      SameShape (.openText entry) (.openText other)
  /-- As many options in a list that unfolds. -/
  | dropdown {pick other : PickOne} (options : pick.options.length = other.options.length) :
      SameShape (.dropdown pick) (.dropdown other)
  /-- As many rows and columns. -/
  | matrix {grid other : Grid} (rows : grid.rows.length = other.rows.length)
      (columns : grid.columns.length = other.columns.length) :
      SameShape (.matrix grid) (.matrix other)
  /-- Numbers with the same bounds given. -/
  | numeric {entry other : NumberEntry} (min : entry.min.isSome = other.min.isSome)
      (max : entry.max.isSome = other.max.isSome) :
      SameShape (.numeric entry) (.numeric other)
  /-- Dates with the same bounds given. -/
  | date {entry other : DateEntry} (min : entry.min.isSome = other.min.isSome)
      (max : entry.max.isSome = other.max.isSome) :
      SameShape (.date entry) (.date other)
  /-- As many options to put in order. -/
  | ranking {order other : Ranking} (options : order.options.length = other.options.length) :
      SameShape (.ranking order) (.ranking other)
  /-- Files, of named types in both or in none. -/
  | fileUpload {upload other : Upload}
      (allowedTypes : upload.allowedTypes.isEmpty = other.allowedTypes.isEmpty) :
      SameShape (.fileUpload upload) (.fileUpload other)
  /-- Section breaks. -/
  | sectionBreak : SameShape .sectionBreak .sectionBreak

/-- Two questions are required or not and described or not alike, and have bodies of one shape. -/
structure Question.SameShape (q r : Question) : Prop where
  /-- Both are required or none. -/
  required : q.required = r.required
  /-- Both have a description or none. -/
  description : q.description.isEmpty = r.description.isEmpty
  /-- The bodies are of one shape. -/
  body : q.body.SameShape r.body

/-- Two surveys mark required questions alike, are described or not alike, and have questions of the
same shapes in order. -/
structure Survey.SameShape (survey other : Survey) : Prop where
  /-- Required questions are marked in the same way. -/
  requiredMark : survey.settings.requiredMark = other.settings.requiredMark
  /-- Both have a description or none. -/
  description : survey.description.isEmpty = other.description.isEmpty
  /-- There are as many questions, and each two in the same place are of one shape. -/
  questions : List.Forall₂ Question.SameShape survey.questions other.questions

namespace Page

/-! ## Delimiters -/

/-- Whether a character delimits tags or the values of attributes. -/
def isDelimiter (c : Char) : Bool :=
  c ∈ ['<', '>', '"', '\'']

/-- The delimiters in a text, in order. -/
def delimiters (cs : List Char) : List Char :=
  cs.filter isDelimiter

@[simp]
theorem delimiters_nil : delimiters [] = [] :=
  rfl

@[simp]
theorem delimiters_cons (c : Char) (cs : List Char) :
    delimiters (c :: cs) = if isDelimiter c then c :: delimiters cs else delimiters cs :=
  List.filter_cons

@[simp]
theorem delimiters_append (cs ds : List Char) :
    delimiters (cs ++ ds) = delimiters cs ++ delimiters ds :=
  List.filter_append cs ds

/-- In escaped text there are no delimiters. -/
@[simp]
theorem delimiters_escapeChars (cs : List Char) : delimiters (escapeChars cs) = [] :=
  List.filter_eq_nil_iff.2 fun _ hc hdelimiter =>
    not_mem_escapeChars cs (of_decide_eq_true hdelimiter) hc

/-- The delimiters of attributes as they are written in a tag. -/
def quotes (attributes : List Attribute) : List Char :=
  delimiters (attributes.flatMap Attribute.write)

@[simp]
theorem quotes_nil : quotes [] = [] :=
  rfl

@[simp]
theorem quotes_append (attributes others : List Attribute) :
    quotes (attributes ++ others) = quotes attributes ++ quotes others := by
  simp [quotes]

/-- An attribute has the quotes around its value, whatever the value. -/
@[simp]
theorem quotes_cons_attr {name : String} (hname : delimiters name.toList = []) (value : String)
    (rest : List Attribute) : quotes (attr name value :: rest) = '"' :: '"' :: quotes rest := by
  simp +decide [quotes, attr, Attribute.write, hname]

/-- The delimiters of tokens as they are written. -/
def markup (tokens : List Token) : List Char :=
  delimiters (tokens.flatMap Token.write)

@[simp]
theorem markup_nil : markup [] = [] :=
  rfl

@[simp]
theorem markup_append (tokens others : List Token) :
    markup (tokens ++ others) = markup tokens ++ markup others := by
  simp [markup]

/-- Text has no delimiters. -/
@[simp]
theorem markup_cons_text (content : String) (rest : List Token) :
    markup (.text content :: rest) = markup rest := by
  simp [markup, Token.write]

/-- A tag has its brackets and the quotes of its attributes. -/
@[simp]
theorem markup_cons_start {element : String} (helement : delimiters element.toList = [])
    (attributes : List Attribute) (rest : List Token) :
    markup (.start element attributes :: rest) =
      '<' :: (quotes attributes ++ '>' :: markup rest) := by
  simp +decide [markup, Token.write, quotes, helement]

/-- The end of an element has its brackets. -/
@[simp]
theorem markup_cons_stop {element : String} (helement : delimiters element.toList = [])
    (rest : List Token) : markup (.stop element :: rest) = '<' :: '>' :: markup rest := by
  simp +decide [markup, Token.write, helement]

@[simp]
theorem markup_element {name : String} (hname : delimiters name.toList = [])
    (attributes : List Attribute) (content : List Token) :
    markup (element name attributes content) =
      '<' :: (quotes attributes ++ '>' :: (markup content ++ ['<', '>'])) := by
  simp [element, hname]

/-- Indentation and the end of a line have no delimiters. -/
@[simp]
theorem markup_line (indent : ℕ) (tokens : List Token) :
    markup (line indent tokens) = markup tokens := by
  have hblank : delimiters (List.replicate indent ' ') = [] :=
    List.filter_replicate_of_neg (by decide)
  simp +decide [line, markup, Token.write, hblank]

/-- Tokens have the same markup if their parts have. -/
theorem markup_append_eq {front back front' back' : List Token}
    (hfront : markup front = markup front') (hback : markup back = markup back') :
    markup (front ++ back) = markup (front' ++ back') := by
  rw [markup_append, markup_append, hfront, hback]

/-- Lists of the same length whose elements have the same markup have the same markup. -/
theorem markup_flatMap_eq {α β : Type} {xs : List α} {ys : List β} {f : α → List Token}
    {g : β → List Token} (hlength : xs.length = ys.length)
    (h : ∀ x y, markup (f x) = markup (g y)) : markup (xs.flatMap f) = markup (ys.flatMap g) := by
  induction xs generalizing ys with
  | nil => rw [List.eq_nil_of_length_eq_zero hlength.symm, List.flatMap_nil, List.flatMap_nil]
  | cons x xs ih =>
    obtain ⟨y, ys, rfl⟩ := List.exists_cons_of_length_eq_add_one hlength.symm
    rw [List.flatMap_cons, List.flatMap_cons, markup_append, markup_append, h x y,
      ih (Nat.succ.inj hlength)]

namespace FormStyle

variable {style other : FormStyle} {q r : Question}

/-! ## Words -/

/-- A wording has no delimiters. -/
@[simp]
theorem markup_wording (style : FormStyle) (w : Wording) : markup (style.text w) = [] := by
  simp [text]

/-- Marks of one kind have the same markup. -/
theorem markup_mark_eq (h : style.requiredMark = other.requiredMark) :
    markup style.mark = markup other.mark := by
  unfold mark
  rw [h]
  split <;> simp +decide [className]

/-- The labels of two questions have the same markup, whatever the numbers, if both are required or
none. -/
theorem markup_label_eq (hstyle : style.requiredMark = other.requiredMark)
    (h : q.required = r.required) (number count : ℕ) :
    markup (style.label number q) = markup (other.label count r) := by
  unfold label
  rw [h]
  cases r.required <;> simp [markup_mark_eq hstyle]

/-- Two descriptions have the same markup if both are empty or none. -/
theorem markup_description_eq {w v : Wording} (h : w.isEmpty = v.isEmpty) (indent : ℕ) :
    markup (style.description indent w) = markup (other.description indent v) := by
  unfold description
  rw [h]
  split <;> simp +decide [className]

/-! ## Frames of questions -/

/-- Questions with a single field have the same markup if their parts have. -/
theorem markup_field_eq {label otherLabel content otherContent : List Token}
    (hdescription : q.description.isEmpty = r.description.isEmpty)
    (hlabel : markup label = markup otherLabel) (hcontent : markup content = markup otherContent) :
    markup (style.field q label content) =
      markup (other.field r otherLabel otherContent) := by
  have hbeside : markup (style.description 4 q.description) =
      markup (other.description 4 r.description) := markup_description_eq hdescription 4
  simp +decide [field, className, hlabel, hcontent, hbeside]

/-- Questions with several fields have the same markup if their parts have. -/
theorem markup_fieldset_eq {label otherLabel content otherContent : List Token}
    (hdescription : q.description.isEmpty = r.description.isEmpty)
    (hlabel : markup label = markup otherLabel) (hcontent : markup content = markup otherContent) :
    markup (style.fieldset q label content) =
      markup (other.fieldset r otherLabel otherContent) := by
  have hbeside : markup (style.description 4 q.description) =
      markup (other.description 4 r.description) := markup_description_eq hdescription 4
  simp +decide [fieldset, className, hlabel, hcontent, hbeside]

/-! ## Fields -/

/-- The attributes that every single field has are three. -/
@[simp]
theorem quotes_fieldAttributes (style : FormStyle) (q : Question) :
    quotes (style.fieldAttributes q) = ['"', '"', '"', '"', '"', '"'] := by
  simp +decide [fieldAttributes, className]

/-- A bound has its quotes where it is given. -/
@[simp]
theorem quotes_boundAttribute {α : Type} {name : String} (hname : delimiters name.toList = [])
    (toText : α → String) (bound : Option α) :
    quotes (boundAttribute name toText bound) = if bound.isSome then ['"', '"'] else [] := by
  cases bound <;> simp [boundAttribute, hname]

/-- As many options to tick have the same markup. -/
theorem markup_options_eq {choices others : List Choice} (h : choices.length = others.length)
    (inputType name otherName : String) :
    markup (style.options inputType name choices) =
      markup (other.options inputType otherName others) :=
  markup_flatMap_eq h fun _ _ => by simp +decide [className]

/-- As many options in a list that unfolds have the same markup. -/
theorem markup_selection_eq {choices others : List Choice} (h : choices.length = others.length) :
    markup (style.selection q choices) = markup (other.selection r others) := by
  refine markup_append_eq (markup_append_eq ?_ (markup_flatMap_eq h fun _ _ => ?_)) rfl
  all_goals simp +decide [className]

/-- The labels at an end of two scales have the same markup if both are empty or none. -/
theorem markup_scaleLabel_eq {w v : Wording} (h : w.isEmpty = v.isEmpty) :
    markup (style.scaleLabel w) = markup (other.scaleLabel v) := by
  unfold scaleLabel
  rw [h]
  split <;> simp +decide [className]

/-- Scales of as many points with labels at the same ends have the same markup. -/
theorem markup_scale_eq {scale likert : RatingScale} (hpoints : scale.points = likert.points)
    (hminLabel : scale.minLabel.isEmpty = likert.minLabel.isEmpty)
    (hmaxLabel : scale.maxLabel.isEmpty = likert.maxLabel.isEmpty) :
    markup (style.scale q scale) = markup (other.scale r likert) := by
  refine markup_append_eq (markup_append_eq (markup_append_eq (markup_append_eq ?_
    (markup_scaleLabel_eq hminLabel)) (markup_flatMap_eq (by rw [hpoints]) fun _ _ => ?_))
    (markup_scaleLabel_eq hmaxLabel)) rfl
  all_goals simp +decide [className, radio]

/-- Fields for text have the same markup if they have the same lines and parts. -/
theorem markup_textField_eq {entry field : TextEntry}
    (hmultiline : entry.multiline = field.multiline)
    (hmaxLength : entry.maxLength.isSome = field.maxLength.isSome)
    (hplaceholder : entry.placeholder.isEmpty = field.placeholder.isEmpty) :
    markup (style.textField q entry) = markup (other.textField r field) := by
  unfold textField
  rw [hmultiline, hplaceholder]
  cases field.multiline <;> cases field.placeholder.isEmpty <;> simp +decide [hmaxLength]

/-- Fields for a number have the same markup if they have the same bounds; a step they always
have. -/
theorem markup_numberField_eq {entry field : NumberEntry}
    (hmin : entry.min.isSome = field.min.isSome) (hmax : entry.max.isSome = field.max.isSome) :
    markup (style.numberField q entry) = markup (other.numberField r field) := by
  simp +decide [numberField, hmin, hmax]

/-- Fields for a date have the same markup if they have the same bounds. -/
theorem markup_dateField_eq {entry field : DateEntry}
    (hmin : entry.min.isSome = field.min.isSome) (hmax : entry.max.isSome = field.max.isSome) :
    markup (style.dateField q entry) = markup (other.dateField r field) := by
  simp +decide [dateField, hmin, hmax]

/-- As many options to put in order have the same markup. -/
theorem markup_rankingList_eq {choices others : List Choice}
    (h : choices.length = others.length) :
    markup (style.rankingList choices) = markup (other.rankingList others) := by
  refine markup_append_eq (markup_append_eq ?_ (markup_flatMap_eq h fun _ _ => ?_)) rfl
  all_goals simp +decide [className]

/-- Grids of as many rows and columns have the same markup. -/
theorem markup_gridTable_eq {grid table : Grid} (hrows : grid.rows.length = table.rows.length)
    (hcolumns : grid.columns.length = table.columns.length) :
    markup (style.gridTable q grid) = markup (other.gridTable r table) := by
  -- The row of headings and each of the others has a cell for every column.
  have hheadings : markup (grid.columns.flatMap fun column =>
        element "th" [] (style.text column.text)) =
      markup (table.columns.flatMap fun column => element "th" [] (other.text column.text)) :=
    markup_flatMap_eq hcolumns fun _ _ => by simp +decide
  have hbuttons : ∀ row row', markup (grid.columns.flatMap fun column =>
        element "td" [] [radio (rowName q row) column.id]) =
      markup (table.columns.flatMap fun column =>
        element "td" [] [radio (rowName r row') column.id]) := fun _ _ =>
    markup_flatMap_eq hcolumns fun _ _ => by simp +decide [radio]
  refine markup_append_eq (markup_append_eq (markup_append_eq ?_ ?_)
    (markup_flatMap_eq hrows fun row row' => ?_)) rfl
  · simp +decide [className]
  · simp +decide [hheadings]
  · simp +decide [hbuttons row row']

/-- The attribute that lets several files be handed in has no value, and so no quotes. -/
@[simp]
theorem quotes_multiple (single : Prop) [Decidable single] :
    quotes (if single then [] else [⟨"multiple", none⟩]) = [] := by
  split <;> decide

/-- Fields for files have the same markup if both name types or none. -/
theorem markup_fileField_eq {upload field : Upload}
    (h : upload.allowedTypes.isEmpty = field.allowedTypes.isEmpty) :
    markup (style.fileField q upload) = markup (other.fileField r field) := by
  unfold fileField
  rw [h]
  cases field.allowedTypes.isEmpty <;> simp +decide

/-! ## Questions -/

/-- Questions of one shape have the same markup, of whatever kind they are. -/
theorem markup_question_eq (hstyle : style.requiredMark = other.requiredMark)
    (h : q.SameShape r) (number count : ℕ) :
    markup (style.question number q) = markup (other.question count r) := by
  obtain ⟨hrequired, hdescription, hbody⟩ := h
  have hlabel := markup_label_eq hstyle hrequired number count
  unfold question
  generalize q.body = body, r.body = otherBody at hbody
  -- The kind, which the bodies share, says what frames the fields; these are of one shape.
  cases hbody with
  | multipleChoice options =>
    exact markup_fieldset_eq hdescription hlabel (markup_options_eq options _ _ _)
  | checkboxGroup options =>
    exact markup_fieldset_eq hdescription hlabel (markup_options_eq options _ _ _)
  | likertScale points minLabel maxLabel =>
    exact markup_fieldset_eq hdescription hlabel (markup_scale_eq points minLabel maxLabel)
  | openText multiline maxLength placeholder =>
    exact markup_field_eq hdescription hlabel (markup_textField_eq multiline maxLength placeholder)
  | dropdown options => exact markup_field_eq hdescription hlabel (markup_selection_eq options)
  | matrix rows columns =>
    exact markup_fieldset_eq hdescription hlabel (markup_gridTable_eq rows columns)
  | numeric min max => exact markup_field_eq hdescription hlabel (markup_numberField_eq min max)
  | date min max => exact markup_field_eq hdescription hlabel (markup_dateField_eq min max)
  | ranking options => exact markup_fieldset_eq hdescription hlabel (markup_rankingList_eq options)
  | fileUpload allowedTypes =>
    exact markup_field_eq hdescription hlabel (markup_fileField_eq allowedTypes)
  | sectionBreak =>
    refine markup_append_eq ?_ (markup_description_eq hdescription 4)
    simp +decide [className]

/-- Questions that are of one shape place by place have the same markup. -/
theorem markup_questions_eq (hstyle : style.requiredMark = other.requiredMark)
    {questions others : List Question} (h : List.Forall₂ Question.SameShape questions others)
    (number count : ℕ) :
    markup (style.questions number questions) = markup (other.questions count others) := by
  induction h generalizing number count with
  | nil => rfl
  | cons hshape _ ih => exact markup_append_eq (markup_question_eq hstyle hshape _ _) (ih _ _)

end FormStyle

/-! ## Forms -/

/-- The forms of two surveys of one shape have the same delimiters in the same order, whatever the
texts of the surveys and the class prefixes. -/
theorem delimiters_formText_eq {survey other : Survey} (h : survey.SameShape other)
    (classPrefix otherPrefix : String) :
    delimiters (formText survey classPrefix).toList =
      delimiters (formText other otherPrefix).toList := by
  rw [formText, formText, render, render, String.toList_ofList, String.toList_ofList]
  refine markup_append_eq (markup_append_eq (markup_append_eq (markup_append_eq ?_ ?_)
    (FormStyle.markup_description_eq h.description 2))
    (FormStyle.markup_questions_eq h.requiredMark h.questions 1 1)) rfl
  all_goals simp +decide [FormStyle.className]

/-- A survey that says the same everywhere, in ids and texts. -/
def echoSurvey (words : String) : Survey where
  id := words
  title := .plain words
  description := .plain words
  settings := { defaultLanguage := words }
  questions :=
    [{ id := words, text := .plain words, required := true,
       body := .dropdown { options := [⟨words, .plain words⟩] } },
     { id := words, description := .plain words,
       body := .openText { placeholder := .plain words } },
     { id := words,
       body := .matrix { rows := [⟨words, .plain words⟩], columns := [⟨words, .plain words⟩] } },
     { id := words, body := .fileUpload { allowedTypes := [words] } }]

/-- A survey that ends tags and attributes wherever it can has the delimiters of a harmless one. -/
theorem delimiters_formText_eq_echoSurvey :
    (echoSurvey "Ada").SameShape (echoSurvey "'\"></p><script>") ∧
      delimiters (formText (echoSurvey "Ada") "survey").toList =
        delimiters (formText (echoSurvey "'\"></p><script>") "\"><br class=\"").toList := by
  have hshape : (echoSurvey "Ada").SameShape (echoSurvey "'\"></p><script>") :=
    ⟨rfl, by decide, .cons ⟨rfl, rfl, .dropdown rfl⟩ (.cons ⟨rfl, by decide, .openText rfl rfl
      (by decide)⟩ (.cons ⟨rfl, rfl, .matrix rfl rfl⟩ (.cons ⟨rfl, rfl, .fileUpload rfl⟩ .nil)))⟩
  exact ⟨hshape, delimiters_formText_eq hshape "survey" "\"><br class=\""⟩

end Page

end Questionnaire
