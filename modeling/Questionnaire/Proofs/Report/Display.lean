import Questionnaire.Proofs.Validation.Demands
import Questionnaire.Proofs.Wording.Resolution
import Questionnaire.Report

/-!
# How answers read

A report says how an answer reads, which depends on the question and on the locale. Here this is
said without computing it. The id of an option, a row or a column is shown as the text that is
displayed for the first choice with the id, and an id that no choice has as it is
(`Locale.Shows`). Most answers read alike for all questions (`Locale.ReadsPlainly`). A grid is read
row by row, in the order in which its rows are declared, and rows without an answer are passed over
(`Locale.RowsRead`); entries of a ranking have their ranks in front (`Locale.RanksRead`); and a
rating is followed by the number of points of the scale. These are all the cases
(`Question.Reads`), and what is computed is in each of them what is said here
(`Question.display_eq_iff`). So every entry of a report reads as the answer to its question does
(`Report.exists_question_of_mem_capture`).
-/

namespace Questionnaire

namespace Locale

/-! ## Choices -/

/-- What the id of a choice is shown as, given the choices. -/
inductive Shows (locale : Locale) (choices : List Choice) (id : String) : String → Prop where
  /-- The text displayed for the first choice with the id. -/
  | choice {before : List Choice} {choice : Choice} {after : List Choice} {text : String}
    (choices_eq : choices = before ++ choice :: after) (first : ∀ other ∈ before, other.id ≠ id)
    (id_eq : choice.id = id) (displays : choice.text.Displays locale.active locale.fallback text) :
    Shows locale choices id text
  /-- The id itself, which no choice has. -/
  | given (unknown : ∀ choice ∈ choices, choice.id ≠ id) : Shows locale choices id id

variable {locale : Locale} {choices : List Choice} {id text : String}

/-- An id is shown as the text of the choice that is looked up. -/
theorem choiceText_eq_iff : locale.choiceText choices id = text ↔ locale.Shows choices id text := by
  constructor
  · rintro rfl
    unfold choiceText
    split
    next choice hfind =>
      obtain ⟨hid, before, after, hchoices, hbefore⟩ := List.find?_eq_some_iff_append.1 hfind
      exact .choice hchoices (by simpa using hbefore) (by simpa using hid)
        (Wording.resolve_eq_iff.1 rfl)
    next hfind => exact .given (by simpa using hfind)
  · intro h
    unfold choiceText
    cases h with
    | @choice before choice after _ choices_eq first id_eq displays =>
      have hfind : choices.find? (fun choice => choice.id == id) = some choice :=
        List.find?_eq_some_iff_append.2
          ⟨by simpa using id_eq, before, after, choices_eq, by simpa using first⟩
      rw [hfind]
      exact displays.resolve_eq
    | given unknown =>
      have hfind : choices.find? (fun choice => choice.id == id) = none := by simpa using unknown
      rw [hfind]

/-- Ids are shown one by one. -/
theorem map_choiceText_eq_iff {ids texts : List String} :
    ids.map (locale.choiceText choices) = texts ↔
      List.Forall₂ (locale.Shows choices) ids texts := by
  rw [← List.forall₂_eq_eq_eq, List.forall₂_map_left_iff]
  simp only [choiceText_eq_iff]

/-! ## Rows and ranks -/

/-- The answered rows of a grid are read in turn, each with its column, and the others are passed
over. -/
inductive RowsRead (locale : Locale) (grid : Grid) (cells : IdMap String) :
    List Choice → List String → Prop where
  /-- No row is left. -/
  | nil : RowsRead locale grid cells [] []
  /-- An answered row. -/
  | answered {row : Choice} {column rowText columnText : String} {rows : List Choice}
    {texts : List String} (cell : cells.get? row.id = some column) (said : column ≠ "")
    (row_displays : row.text.Displays locale.active locale.fallback rowText)
    (column_shows : locale.Shows grid.columns column columnText)
    (rest : RowsRead locale grid cells rows texts) :
    RowsRead locale grid cells (row :: rows) ((rowText ++ ": " ++ columnText) :: texts)
  /-- A row without an answer. -/
  | passed {row : Choice} {rows : List Choice} {texts : List String}
    (unanswered : ¬ Grid.HasRow cells row) (rest : RowsRead locale grid cells rows texts) :
    RowsRead locale grid cells (row :: rows) texts

/-- Entries are shown in turn, each with its rank in front. -/
inductive RanksRead (locale : Locale) (options : List Choice) :
    ℕ → List String → List String → Prop where
  /-- No entry is left. -/
  | nil {rank : ℕ} : RanksRead locale options rank [] []
  /-- An entry, and the next rank for the next one. -/
  | entry {rank : ℕ} {id text : String} {ids texts : List String}
    (shows : locale.Shows options id text) (rest : RanksRead locale options (rank + 1) ids texts) :
    RanksRead locale options rank (id :: ids) ((toString rank ++ ". " ++ text) :: texts)

variable {grid : Grid} {cells : IdMap String} {options : List Choice}

/-- A row without an answer has no text. -/
theorem rowText?_eq_none {row : Choice} (h : ¬ Grid.HasRow cells row) :
    locale.rowText? grid cells row = none := by
  unfold rowText?
  split
  next column hcell =>
    by_cases hsaid : column = ""
    · simp [hsaid]
    · exact absurd ⟨column, hcell, hsaid⟩ h
  next => rfl

/-- An answered row has the text of the row and of its column. -/
theorem rowText?_eq_some {row : Choice} {column : String} (hcell : cells.get? row.id = some column)
    (hsaid : column ≠ "") :
    locale.rowText? grid cells row =
      some (locale.resolve row.text ++ ": " ++ locale.choiceText grid.columns column) := by
  simp [rowText?, hcell, hsaid]

/-- The rows that have a text are those that are read. -/
theorem filterMap_rowText?_eq_iff {rows : List Choice} {texts : List String} :
    rows.filterMap (locale.rowText? grid cells) = texts ↔
      locale.RowsRead grid cells rows texts := by
  constructor
  · -- By induction on the rows: an answered one has a text, and one without an answer has none.
    rintro rfl
    induction rows with
    | nil => exact .nil
    | cons row rows ih =>
      by_cases hrow : Grid.HasRow cells row
      · obtain ⟨column, hcell, hsaid⟩ := hrow
        rw [List.filterMap_cons_some (rowText?_eq_some hcell hsaid)]
        exact .answered hcell hsaid (Wording.resolve_eq_iff.1 rfl) (choiceText_eq_iff.1 rfl) ih
      · rw [List.filterMap_cons_none (rowText?_eq_none hrow)]
        exact .passed hrow ih
  · intro h
    induction h with
    | nil => rfl
    | answered cell said row_displays column_shows _ ih =>
      rw [List.filterMap_cons_some (rowText?_eq_some cell said), resolve, row_displays.resolve_eq,
        choiceText_eq_iff.2 column_shows, ih]
    | passed unanswered _ ih => rw [List.filterMap_cons_none (rowText?_eq_none unanswered), ih]

/-- The ranks are put in front of what is shown. -/
theorem rankedTexts_eq_iff {rank : ℕ} {ids texts : List String} :
    rankedTexts rank (ids.map (locale.choiceText options)) = texts ↔
      locale.RanksRead options rank ids texts := by
  constructor
  · -- The rank goes up from entry to entry, so the induction is for every rank.
    rintro rfl
    induction ids generalizing rank with
    | nil => exact .nil
    | cons id ids ih => exact .entry (choiceText_eq_iff.1 rfl) ih
  · intro h
    induction h with
    | nil => rfl
    | entry shows _ ih => rw [List.map_cons, rankedTexts, choiceText_eq_iff.2 shows, ih]

/-! ## Answers that read alike for all questions -/

/-- An answer reads as a text where its question has no way of its own. -/
inductive ReadsPlainly (locale : Locale) (options : List Choice) : Answer → String → Prop where
  /-- What the items of a list are shown as. -/
  | list {items texts : List String}
    (items_show : List.Forall₂ (locale.Shows options) items texts) :
    ReadsPlainly locale options (.list items) (", ".intercalate texts)
  /-- The names of the files. -/
  | files (uploads : List File) :
    ReadsPlainly locale options (.files uploads) (", ".intercalate (uploads.map File.name))
  /-- What the text is shown as. -/
  | text {given text : String} (shows : locale.Shows options given text) :
    ReadsPlainly locale options (.text given) text
  /-- The number. -/
  | number (x : Number) : ReadsPlainly locale options (.number x) x.toProse
  /-- The ids of rows and columns as they are. -/
  | grid (cells : IdMap String) :
    ReadsPlainly locale options (.grid cells)
      ("; ".intercalate (cells.entries.map fun (row, column) => row ++ ": " ++ column))

/-- The text of such an answer is how it reads. -/
theorem plainText_eq_iff {answer : Answer} :
    locale.plainText options answer = text ↔ locale.ReadsPlainly options answer text := by
  constructor
  · rintro rfl
    cases answer with
    | list => exact .list (map_choiceText_eq_iff.1 rfl)
    | files uploads => exact .files uploads
    | text => exact .text (choiceText_eq_iff.1 rfl)
    | number x => exact .number x
    | grid cells => exact .grid cells
  · intro h
    cases h with
    | list items_show => rw [plainText, map_choiceText_eq_iff.2 items_show]
    | text shows => exact choiceText_eq_iff.2 shows
    | files | number | grid => rfl

end Locale

/-! ## All answers -/

namespace Question

/-- An answer to a question reads as a text. -/
inductive Reads (q : Question) (locale : Locale) : Answer → String → Prop where
  /-- Cells, to a question that has a grid. -/
  | grid {grid : Grid} {cells : IdMap String} {texts : List String} (body : q.body = .matrix grid)
    (rows : locale.RowsRead grid cells grid.rows texts) :
    Reads q locale (.grid cells) ("; ".intercalate texts)
  /-- A list, to a question that asks for a ranking. -/
  | ranking {order : Ranking} {items texts : List String} (body : q.body = .ranking order)
    (ranks : locale.RanksRead order.options 1 items texts) :
    Reads q locale (.list items) (", ".intercalate texts)
  /-- A number or a text, to a question that has a scale. -/
  | rating {scale : RatingScale} {answer : Answer} {given : String}
    (body : q.body = .likertScale scale) (scalar : answer.scalarText? = some given) :
    Reads q locale answer (given ++ " / " ++ toString scale.points.toNat)
  /-- Anything else, to a question that has a scale. -/
  | noRating {scale : RatingScale} {answer : Answer} (body : q.body = .likertScale scale)
    (no_scalar : answer.scalarText? = none) : Reads q locale answer ""
  /-- Every other answer. -/
  | plain {answer : Answer} {text : String}
    (no_grid : ∀ grid cells, q.body = .matrix grid → answer ≠ .grid cells)
    (no_ranking : ∀ order items, q.body = .ranking order → answer ≠ .list items)
    (no_scale : ∀ scale, q.body ≠ .likertScale scale)
    (reads : locale.ReadsPlainly q.body.options answer text) : Reads q locale answer text

variable {q : Question} {locale : Locale} {answer : Answer} {text : String}

/-- Every other answer is displayed as if its question had no way of its own. -/
theorem display_eq_plainText (no_grid : ∀ grid cells, q.body = .matrix grid → answer ≠ .grid cells)
    (no_ranking : ∀ order items, q.body = .ranking order → answer ≠ .list items)
    (no_scale : ∀ scale, q.body ≠ .likertScale scale) :
    q.display answer locale = locale.plainText q.body.options answer := by
  unfold display
  -- The three ways that come first are those that the hypotheses rule out.
  split
  next grid cells hbody => exact absurd rfl (no_grid grid cells hbody)
  next order items hbody => exact absurd rfl (no_ranking order items hbody)
  next _ scale hbody => exact absurd hbody (no_scale scale)
  next => rfl

/-- In each case something is read, and this is what is displayed. -/
theorem reads_display (q : Question) (locale : Locale) (answer : Answer) :
    q.Reads locale answer (q.display answer locale) := by
  unfold display
  split
  next grid cells hbody => exact .grid hbody (Locale.filterMap_rowText?_eq_iff.1 rfl)
  next order items hbody => exact .ranking hbody (Locale.rankedTexts_eq_iff.1 rfl)
  next scale hbody =>
    split
    next given hscalar => exact .rating hbody hscalar
    next hscalar => exact .noRating hbody hscalar
  next no_scale no_grid no_ranking =>
    exact .plain no_grid no_ranking no_scale (Locale.plainText_eq_iff.1 rfl)

/-- What is displayed is how the answer reads, and nothing else is. -/
theorem display_eq_iff : q.display answer locale = text ↔ q.Reads locale answer text := by
  refine ⟨fun h => h ▸ q.reads_display locale answer, fun h => ?_⟩
  cases h with
  | grid body rows =>
    simp only [display, body, Locale.gridText, Locale.filterMap_rowText?_eq_iff.2 rows]
  | ranking body ranks => simp only [display, body, Locale.rankedTexts_eq_iff.2 ranks]
  | rating body scalar => simp only [display, body, scalar]
  | noRating body no_scalar => simp only [display, body, no_scalar]
  | plain no_grid no_ranking no_scale reads =>
    rw [display_eq_plainText no_grid no_ranking no_scale]
    exact Locale.plainText_eq_iff.2 reads

end Question

/-! ## Reports -/

/-- The entries of a report are on questions that were presented, and each reads as the answer to
its question does. -/
theorem Report.exists_question_of_mem_capture {surveyId : String} {presented : List Question}
    {answers : Answers} {visibility : Visibility} {locale : Locale} {entry : Entry}
    (h : entry ∈ (capture surveyId presented answers visibility locale).entries) :
    ∃ q ∈ presented, entry.questionId = q.id ∧ answers.get? q.id = some entry.answer ∧
      q.Reads locale entry.answer entry.display := by
  obtain ⟨q, hq, hentry⟩ := List.mem_filterMap.1 h
  obtain ⟨-, -, answer, hanswer, -, rfl⟩ := reported?_eq_some_iff.1 hentry
  exact ⟨q, hq, rfl, hanswer, Question.display_eq_iff.1 rfl⟩

end Questionnaire
