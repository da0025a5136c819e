import Questionnaire.Proofs.IdMap
import Questionnaire.Proofs.Validation.Check

/-!
# The answers a check accepts

A check passes exactly the answers that the question accepts: nothing that fits is refused, and
nothing that does not fit gets through. For most kinds of questions this is read off the ways in
which their check can end (`Body.judged`). A grid is checked in two passes, over its cells and over
its rows, and each is shown to look for what it should (`Grid.check_eq_ok_iff`).
-/

namespace Questionnaire

/-! ## Grids -/

namespace Grid

variable {grid : Grid} {cells : IdMap String}

/-- No cell is refused when each that says something is in a row and a column of the grid. -/
theorem knows_iff :
    (∀ cell ∈ cells.entries, grid.isUnknownCell cell = false) ↔ grid.Knows cells := by
  simp only [Knows, IdMap.get?_eq_some_iff, Prod.forall, isUnknownCell, ← isChoiceId_iff,
    Bool.and_eq_false_imp, Bool.not_eq_true', Bool.not_eq_false', Bool.and_eq_true,
    String.isEmpty_eq_false_iff]

/-- A row counts as answered when it has a cell that says something. -/
theorem isAnsweredRow_iff {row : Choice} : isAnsweredRow cells row = true ↔ HasRow cells row := by
  unfold isAnsweredRow HasRow
  cases cells.get? row.id with
  | none => simp
  | some column => simp

/-- No row is missing when each is answered. -/
theorem missingRows_eq_nil_iff :
    grid.missingRows cells = [] ↔ ∀ row ∈ grid.rows, HasRow cells row := by
  simp only [missingRows, List.map_eq_nil_iff, List.filter_eq_nil_iff, Bool.not_eq_true',
    Bool.not_eq_false, isAnsweredRow_iff]

/-- As many rows are missing as there are when none is answered. -/
theorem length_missingRows_eq_iff :
    (grid.missingRows cells).length = grid.rows.length ↔ ∀ row ∈ grid.rows, ¬ HasRow cells row := by
  simp only [missingRows, List.length_map, List.length_filter_eq_length_iff, Bool.not_eq_true',
    ← isAnsweredRow_iff, Bool.not_eq_true]

/-- The second pass of a grid's check, over its rows. -/
def askRows (grid : Grid) (required : Bool) (cells : IdMap String) : Checked :=
  if required then
    let missing := grid.missingRows cells
    if missing.isEmpty then .ok ()
    else if missing.length = grid.rows.length then .error .required
    else .error (.incompleteMatrix missing)
  else .ok ()

/-- A grid is checked in two passes. -/
theorem check_grid (required : Bool) :
    grid.check required (.grid cells) = (do
      Checked.refuseFirst cells.entries grid.isUnknownCell fun cell =>
        .unknownMatrixCell cell.1 cell.2
      grid.askRows required cells) :=
  rfl

/-- What is no grid of cells is of another shape. -/
theorem check_of_not_grid {answer : Answer} (h : ∀ cells, answer ≠ .grid cells) (required : Bool) :
    grid.check required answer = .error (.typeMismatch "Matrix" answer.shape) := by
  cases answer with
  | grid cells => exact absurd rfl (h cells)
  | _ => rfl

/-- The rows pass when each is answered or none need be. -/
theorem askRows_eq_ok_iff {required : Bool} :
    grid.askRows required cells = .ok () ↔
      (required = true → ∀ row ∈ grid.rows, HasRow cells row) := by
  cases required with
  | false => simp [askRows]
  | true =>
    rw [← missingRows_eq_nil_iff, ← List.isEmpty_iff]
    cases hmissing : (grid.missingRows cells).isEmpty with
    | true => simp [askRows, hmissing]
    | false => by_cases hall : (grid.missingRows cells).length = grid.rows.length <;>
        simp [askRows, hmissing, hall]

/-- The rows are called unanswered when there are some and none is answered. -/
theorem askRows_eq_required_iff :
    grid.askRows true cells = .error .required ↔
      grid.rows ≠ [] ∧ ∀ row ∈ grid.rows, ¬ HasRow cells row := by
  rw [← length_missingRows_eq_iff]
  by_cases hall : (grid.missingRows cells).length = grid.rows.length
  · have hempty : grid.missingRows cells = [] ↔ grid.rows = [] := by
      rw [← List.length_eq_zero_iff, hall, List.length_eq_zero_iff]
    by_cases hrows : grid.rows = []
    · simp [askRows, hempty.2 hrows, hrows]
    · simp [askRows, hall, hempty, hrows]
  · -- Some row is answered, so either none is missing or those missing are named.
    cases hmissing : (grid.missingRows cells).isEmpty <;> simp [askRows, hmissing, hall]

/-- A grid passes the answers that are cells in its rows and columns, with a cell in each row where
an answer is required. -/
theorem check_eq_ok_iff {required : Bool} {answer : Answer} :
    grid.check required answer = .ok () ↔
      ∃ cells, answer = .grid cells ∧ grid.Knows cells ∧
        (required = true → ∀ row ∈ grid.rows, HasRow cells row) := by
  by_cases hgrid : ∃ cells, answer = .grid cells
  · obtain ⟨cells, rfl⟩ := hgrid
    rw [check_grid, Checked.and_then_eq_ok_iff, Checked.refuseFirst_eq_ok_iff, knows_iff,
      askRows_eq_ok_iff]
    simp
  · have hmismatch : grid.check required answer = .error (.typeMismatch "Matrix" answer.shape) :=
      check_of_not_grid (fun cells h => hgrid ⟨cells, h⟩) required
    rw [hmismatch]
    exact iff_of_false (by simp) fun ⟨cells, h, _⟩ => hgrid ⟨cells, h⟩

end Grid

/-! ## All kinds -/

/-- Where there is nothing to check, a check passes when no answer is required. -/
theorem Checked.unanswered_eq_ok_iff {required : Bool} :
    Checked.unanswered required = .ok () ↔ required = false := by
  cases required <;> simp [Checked.unanswered]

/-- A check in three steps passes what has the right shape, and is blank where no answer is required
or within what is asked. -/
theorem Body.Judged.eq_ok_iff {body : Body} {answer : Answer} {check : Bool → Checked}
    (h : body.Judged answer check) (required : Bool) :
    check required = .ok () ↔ body.Takes answer ∧
      (body.IsBlank answer ∧ required = false ∨ ¬ body.IsBlank answer ∧ body.Satisfied answer) := by
  cases h with
  | mismatch takes => simp [takes]
  | blank takes blank => simp [takes, blank, Checked.unanswered_eq_ok_iff]
  | satisfied takes not_blank satisfied => simp [takes, not_blank, satisfied]
  | violated takes not_blank violated => simp [not_blank, violated]

namespace Question

variable {q : Question} {answer : Answer}

theorem kind_eq_matrix_iff : q.kind = .matrix ↔ ∃ grid, q.body = .matrix grid := by
  unfold kind
  cases q.body <;> simp [Body.kind]

theorem kind_eq_sectionBreak_iff : q.kind = .sectionBreak ↔ q.body = .sectionBreak := by
  unfold kind
  cases q.body <;> simp [Body.kind]

/-- Of a question with a grid, what is accepted is cells. -/
theorem accepts_iff_of_matrix {grid : Grid} (hbody : q.body = .matrix grid) :
    q.Accepts (some answer) ↔ ∃ cells, answer = .grid cells ∧ grid.Knows cells ∧
      (q.required = true → ∀ row ∈ grid.rows, Grid.HasRow cells row) := by
  have hkind : q.kind = .matrix := kind_eq_matrix_iff.2 ⟨grid, hbody⟩
  constructor
  · intro h
    cases h with
    | nothing_asked _ body => simp [hbody] at body
    | cells body known complete =>
      obtain rfl : grid = _ := Body.matrix.inj (hbody.symm.trans body)
      exact ⟨_, rfl, known, complete⟩
    | blank no_grid | satisfied no_grid => exact absurd hkind no_grid
  · rintro ⟨cells, rfl, known, complete⟩
    exact .cells hbody known complete

/-- Of the kinds that are checked in three steps, what is accepted has the right shape, and is blank
where no answer is required or within what is asked. -/
theorem accepts_iff_of_ne (no_grid : q.kind ≠ .matrix) (no_break : q.kind ≠ .sectionBreak) :
    q.Accepts (some answer) ↔ q.body.Takes answer ∧
      (q.body.IsBlank answer ∧ q.required = false ∨
        ¬ q.body.IsBlank answer ∧ q.body.Satisfied answer) := by
  constructor
  · intro h
    cases h with
    | nothing_asked _ body => exact absurd (kind_eq_sectionBreak_iff.2 body) no_break
    | cells body => exact absurd (kind_eq_matrix_iff.2 ⟨_, body⟩) no_grid
    | blank _ takes blank optional => exact ⟨takes, .inl ⟨blank, optional⟩⟩
    | satisfied _ takes not_blank satisfied => exact ⟨takes, .inr ⟨not_blank, satisfied⟩⟩
  · rintro ⟨takes, ⟨blank, optional⟩ | ⟨not_blank, satisfied⟩⟩
    · exact .blank no_grid takes blank optional
    · exact .satisfied no_grid takes not_blank satisfied

/-- Without an answer, a check passes when none is required or the question is a section break. -/
theorem check_none_eq_ok_iff :
    q.check none = .ok () ↔ q.body = .sectionBreak ∨ q.required = false := by
  cases hbody : q.body <;> simp [check, isSectionBreak, hbody, Checked.unanswered_eq_ok_iff]

/-- A check passes exactly the answers that the question accepts. -/
theorem check_eq_ok_iff_accepts (q : Question) (answer : Option Answer) :
    q.check answer = .ok () ↔ q.Accepts answer := by
  cases answer with
  | none =>
    rw [check_none_eq_ok_iff]
    constructor
    · rintro (body | optional)
      · exact .nothing_asked none body
      · exact .unanswered optional
    · rintro (⟨_, body⟩ | optional)
      · exact .inl body
      · exact .inr optional
  | some answer =>
    by_cases hbreak : q.kind = .sectionBreak
    · have body := kind_eq_sectionBreak_iff.1 hbreak
      have hcheck : q.check (some answer) = .ok () := by rw [check, body, Body.check]
      exact iff_of_true hcheck (.nothing_asked _ body)
    by_cases hgrid : q.kind = .matrix
    · obtain ⟨grid, body⟩ := kind_eq_matrix_iff.1 hgrid
      have hcheck : q.check (some answer) = grid.check q.required answer := by
        rw [check, body, Body.check]
      rw [hcheck, Grid.check_eq_ok_iff, accepts_iff_of_matrix body]
    · -- The other kinds are checked in three steps.
      have hjudged : q.body.Judged answer fun required => q.body.check required answer :=
        Body.judged answer hgrid hbreak
      rw [accepts_iff_of_ne hgrid hbreak]
      exact hjudged.eq_ok_iff q.required

end Question

end Questionnaire
