import Questionnaire.Proofs.Validation.Acceptance
import Questionnaire.Report

/-!
# Empty answers and missing answers

A report leaves out the answers that are empty (`Answer.isEmpty`), and a check calls an answer
missing where one is required and nothing was answered (`Violation.required`). The two are decided
apart, and agree on every answer that fits its question (`Question.missing_as_empty`), but for
grids in two respects. A grid without rows asks for nothing, so none of its answers is missing. And
cells that are all blank answer no row, though the grid of them is not empty.
-/

namespace Questionnaire

/-! ## Blank and empty -/

namespace Body

/-- An answer of the right shape is blank when it is empty. -/
theorem isBlank_iff_isEmpty {body : Body} {answer : Answer} (no_grid : body.kind ≠ .matrix)
    (no_break : body.kind ≠ .sectionBreak) (takes : body.Takes answer) :
    body.IsBlank answer ↔ answer.isEmpty = true := by
  have hlist : ∀ items : List String, items = [] ↔ (Answer.list items).isEmpty = true :=
    fun _ => List.isEmpty_iff.symm
  have hfiles : ∀ uploads : List File, uploads = [] ↔ (Answer.files uploads).isEmpty = true :=
    fun _ => List.isEmpty_iff.symm
  have htext : ∀ s, Text.trim s = "" ↔ (Answer.text s).isEmpty = true :=
    fun _ => Text.isBlank_iff_trim_eq.symm
  cases body with
  | multipleChoice | dropdown | openText | numeric =>
    rcases takes with ⟨s, rfl⟩ | ⟨x, rfl⟩
    · exact htext s
    · simp [IsBlank, Answer.isEmpty]
  | checkboxGroup | ranking =>
    obtain ⟨items, rfl⟩ := takes
    exact hlist items
  | likertScale => rfl
  | matrix => exact absurd rfl no_grid
  | date =>
    obtain ⟨s, rfl⟩ := takes
    exact htext s
  | fileUpload =>
    rcases takes with ⟨uploads, rfl⟩ | rfl
    · exact hfiles uploads
    · exact hlist []
  | sectionBreak => exact absurd rfl no_break

variable {body : Body} {answer : Answer} {check : Bool → Checked}

/-- A check in three steps calls an answer missing when it has the right shape and is blank. -/
theorem Judged.eq_required_iff (h : body.Judged answer check) :
    check true = .error .required ↔ body.Takes answer ∧ body.IsBlank answer := by
  cases h with
  | mismatch takes => simp [takes]
  | blank takes blank => simp [takes, blank, Checked.unanswered]
  | satisfied _ not_blank => simp [not_blank]
  | @violated _ not_blank _ violation constraint =>
    have hne : violation ≠ .required := by
      rintro rfl
      cases constraint
    simp [not_blank, hne]

/-- A check in three steps that does not find another shape finds the right one. -/
theorem Judged.takes (h : body.Judged answer check)
    (fits : ∀ expected actual, check true ≠ .error (.typeMismatch expected actual)) :
    body.Takes answer := by
  cases h with
  | mismatch => exact absurd rfl (fits _ _)
  | blank takes | satisfied takes | violated takes => exact takes

end Body

/-! ## Grids -/

namespace Grid

variable {grid : Grid} {cells : IdMap String}

/-- No cell says anything. -/
def AllBlank (cells : IdMap String) : Prop :=
  ∀ row column, cells.get? row = some column → column = ""

/-- Where a grid knows the cells, they are all blank when none is in a row of it. -/
theorem Knows.allBlank_iff (known : grid.Knows cells) :
    AllBlank cells ↔ ∀ row ∈ grid.rows, ¬ HasRow cells row := by
  constructor
  · rintro h row _ ⟨column, hcolumn, hne⟩
    exact hne (h row.id column hcolumn)
  · intro h row column hcolumn
    by_contra hne
    obtain ⟨⟨choice, hmem, rfl⟩, _⟩ := known row column hcolumn hne
    exact h choice hmem ⟨column, hcolumn, hne⟩

/-- Blank cells are no unknown ones. -/
theorem AllBlank.knows (h : AllBlank cells) : grid.Knows cells :=
  fun row column hcolumn hne => absurd (h row column hcolumn) hne

/-- An answer to a grid is missing when the grid has a row and no cell says anything. -/
theorem check_eq_required_iff :
    grid.check true (.grid cells) = .error .required ↔ grid.rows ≠ [] ∧ AllBlank cells := by
  have hcells : ∀ violation,
      Checked.refuseFirst cells.entries grid.isUnknownCell (fun cell =>
        .unknownMatrixCell cell.1 cell.2) = .error violation → violation.isConstraint = true :=
    Checked.ObjectsOnly.refuseFirst fun _ => rfl
  rw [check_grid, bind_eq_error_iff]
  constructor
  · rintro (h | ⟨_, hknown, h⟩)
    · exact absurd (hcells _ h) (by decide)
    · obtain ⟨hrows, hnone⟩ := askRows_eq_required_iff.1 h
      have known := knows_iff.1 (Checked.refuseFirst_eq_ok_iff.1 hknown)
      exact ⟨hrows, known.allBlank_iff.2 hnone⟩
  · rintro ⟨hrows, hblank⟩
    have known : grid.Knows cells := hblank.knows
    exact .inr ⟨(), Checked.refuseFirst_eq_ok_iff.2 (knows_iff.2 known),
      askRows_eq_required_iff.2 ⟨hrows, known.allBlank_iff.1 hblank⟩⟩

/-- No cell at all is a case of all of them being blank. -/
theorem allBlank_of_isEmpty (h : cells.isEmpty = true) : AllBlank cells := by
  intro row column hcolumn
  rw [IdMap.get?_eq_some_iff, List.isEmpty_iff.1 h] at hcolumn
  cases hcolumn

end Grid

/-! ## Questions -/

namespace Question

/-- The question with an answer required. -/
def demanded (q : Question) : Question :=
  { q with required := true }

/-- The question is a grid without rows. -/
def HasNoRows (q : Question) : Prop :=
  ∃ grid, q.body = .matrix grid ∧ grid.rows = []

end Question

/-- The answer has cells, and none of them says anything. -/
def Answer.HasOnlyBlankCells (answer : Answer) : Prop :=
  ∃ cells, answer = .grid cells ∧ cells.isEmpty = false ∧ Grid.AllBlank cells

namespace Question

variable {q : Question} {answer : Answer}

/-- Of a question that is no grid, an answer that fits is missing when it is empty. -/
theorem isEmpty_iff_missing_of_ne (no_grid : q.kind ≠ .matrix) (no_break : q.kind ≠ .sectionBreak)
    (fits : ∀ expected actual,
      q.demanded.check (some answer) ≠ .error (.typeMismatch expected actual)) :
    answer.isEmpty = true ↔ q.demanded.check (some answer) = .error .required := by
  have hjudged : q.body.Judged answer fun required => q.body.check required answer :=
    Body.judged answer no_grid no_break
  have takes : q.body.Takes answer := hjudged.takes fits
  have hmissing : q.demanded.check (some answer) = .error .required ↔
      q.body.Takes answer ∧ q.body.IsBlank answer := hjudged.eq_required_iff
  rw [hmissing, Body.isBlank_iff_isEmpty no_grid no_break takes]
  exact ⟨fun h => ⟨takes, h⟩, fun h => h.2⟩

/-- Of a grid, an answer that fits is one of cells, and is missing when the grid has a row and the
cells are all blank. -/
theorem missing_iff_of_matrix {grid : Grid} (hbody : q.body = .matrix grid)
    (fits : ∀ expected actual,
      q.demanded.check (some answer) ≠ .error (.typeMismatch expected actual)) :
    ∃ cells, answer = .grid cells ∧ (q.demanded.check (some answer) = .error .required ↔
      grid.rows ≠ [] ∧ Grid.AllBlank cells) := by
  have hcheck : q.demanded.check (some answer) = grid.check true answer := by
    show q.body.check true answer = grid.check true answer
    rw [hbody, Body.check]
  rw [hcheck] at fits ⊢
  -- Anything but cells is of another shape, and that does not fit.
  by_cases hgrid : ∃ cells, answer = .grid cells
  · obtain ⟨cells, rfl⟩ := hgrid
    exact ⟨cells, rfl, Grid.check_eq_required_iff⟩
  · exact absurd (Grid.check_of_not_grid (fun cells h => hgrid ⟨cells, h⟩) true) (fits _ _)

/-- What a check calls missing is what a report leaves out as empty, but for grids without rows and
for cells that are all blank. -/
structure MissingAsEmpty (q : Question) (answer : Answer) : Prop where
  /-- Of a grid without rows nothing is missing. -/
  no_rows : q.HasNoRows → q.demanded.check (some answer) ≠ .error .required
  /-- Of any other question an empty answer is missing. -/
  missing : ¬ q.HasNoRows → answer.isEmpty = true →
    q.demanded.check (some answer) = .error .required
  /-- A missing answer is empty, unless it has cells that are all blank. -/
  empty : ¬ answer.HasOnlyBlankCells → q.demanded.check (some answer) = .error .required →
    answer.isEmpty = true
  /-- Then no report has an entry for it. -/
  unreported : ¬ answer.HasOnlyBlankCells → q.demanded.check (some answer) = .error .required →
    ∀ (answers : Answers) (visibility : Visibility) (locale : Locale),
      answers.get? q.id = some answer → Report.reported? answers visibility locale q = none
  /-- An empty answer does not pass where one is required and there is something to answer. -/
  refused : ¬ q.HasNoRows → q.required = true → answer.isEmpty = true →
    q.check (some answer) = .error .required

/-- An empty answer is in no report. -/
theorem reported?_eq_none_of_isEmpty {answers : Answers} {visibility : Visibility} {locale : Locale}
    (hanswer : answers.get? q.id = some answer) (hempty : answer.isEmpty = true) :
    Report.reported? answers visibility locale q = none := by
  unfold Report.reported?
  split
  · rfl
  · simp [hanswer, hempty]

/-- It is enough to compare what is missing with what is empty. -/
theorem MissingAsEmpty.of_iff
    (no_rows : q.HasNoRows → q.demanded.check (some answer) ≠ .error .required)
    (missing : ¬ q.HasNoRows → answer.isEmpty = true →
      q.demanded.check (some answer) = .error .required)
    (empty : ¬ answer.HasOnlyBlankCells → q.demanded.check (some answer) = .error .required →
      answer.isEmpty = true) : q.MissingAsEmpty answer where
  no_rows := no_rows
  missing := missing
  empty := empty
  unreported := fun hcells h _ _ _ hanswer => reported?_eq_none_of_isEmpty hanswer (empty hcells h)
  refused := by
    intro hrows hrequired hempty
    have hdemanded : q.demanded = q := by rw [demanded, ← hrequired]
    rw [← hdemanded]
    exact missing hrows hempty

/-- An answer that fits its question is missing exactly when it is empty, but for grids without rows
and for cells that are all blank. -/
theorem missing_as_empty (q : Question) (answer : Answer) (no_break : q.kind ≠ .sectionBreak)
    (fits : ∀ expected actual,
      q.demanded.check (some answer) ≠ .error (.typeMismatch expected actual)) :
    q.MissingAsEmpty answer := by
  by_cases hgrid : q.kind = .matrix
  · obtain ⟨grid, hbody⟩ := kind_eq_matrix_iff.1 hgrid
    obtain ⟨cells, rfl, hmissing⟩ := missing_iff_of_matrix hbody fits
    have hrows : q.HasNoRows ↔ grid.rows = [] := by
      constructor
      · rintro ⟨grid', hbody', hrows⟩
        rw [hbody] at hbody'
        cases hbody'
        exact hrows
      · exact fun h => ⟨grid, hbody, h⟩
    refine .of_iff ?no_rows ?missing ?empty
    case no_rows => exact fun hnone h => (hmissing.1 h).1 (hrows.1 hnone)
    case missing =>
      exact fun hsome hempty => hmissing.2 ⟨mt hrows.2 hsome, Grid.allBlank_of_isEmpty hempty⟩
    case empty =>
      intro hcells h
      by_contra hempty
      exact hcells ⟨cells, rfl, Bool.eq_false_iff.2 hempty, (hmissing.1 h).2⟩
  · have hiff := isEmpty_iff_missing_of_ne hgrid no_break fits
    have hrows : ¬ q.HasNoRows :=
      fun ⟨grid, hbody, _⟩ => hgrid (kind_eq_matrix_iff.2 ⟨grid, hbody⟩)
    exact .of_iff (fun h => absurd h hrows) (fun _ => hiff.1) fun _ => hiff.2

/-- A grid with one row and one column. -/
def smallGrid : Question where
  id := "meal"
  body := .matrix { rows := [⟨"food", .plain "Food"⟩], columns := [⟨"good", .plain "Good"⟩] }

/-- No cell at all is missing of a grid with a row. -/
theorem missing_as_empty_smallGrid :
    smallGrid.kind ≠ .sectionBreak ∧
      (∀ expected actual, smallGrid.demanded.check (some (.grid .empty)) ≠
        .error (.typeMismatch expected actual)) ∧
      smallGrid.MissingAsEmpty (.grid .empty) := by
  have fits : ∀ expected actual, smallGrid.demanded.check (some (.grid .empty)) ≠
      .error (.typeMismatch expected actual) := by
    intro expected actual h
    cases h
  exact ⟨by decide, fits, missing_as_empty smallGrid (.grid .empty) (by decide) fits⟩

/-- A grid without rows or columns. -/
def bareGrid : Question where
  id := "meal"
  body := .matrix {}

/-- Missing and empty are not one and the same: no cell at all is empty, yet nothing is missing of a
grid without rows. -/
theorem not_forall_isEmpty_iff_missing :
    ¬ ∀ (q : Question) (answer : Answer), q.kind ≠ .sectionBreak →
      (∀ expected actual, q.demanded.check (some answer) ≠ .error (.typeMismatch expected actual)) →
      (answer.isEmpty = true ↔ q.demanded.check (some answer) = .error .required) := by
  intro h
  have hpasses : bareGrid.demanded.check (some (.grid .empty)) = .ok () := rfl
  have fits : ∀ expected actual, bareGrid.demanded.check (some (.grid .empty)) ≠
      .error (.typeMismatch expected actual) := by
    intro expected actual hmismatch
    rw [hpasses] at hmismatch
    cases hmismatch
  have hmissing := (h bareGrid (.grid .empty) (by decide) fits).1 rfl
  rw [hpasses] at hmissing
  cases hmissing

end Question

end Questionnaire
