import Questionnaire.Proofs.Validation.Violated

/-!
# Requiring an answer

Whether an answer is required is asked in different places: between the shape of an answer and its
bounds for most kinds of questions, before both on a scale, and after all of its cells in a grid.
Wherever it is asked, it makes the same difference. A question that is made required objects to the
answers that it objected to before, each with the violation that it had; what it finds beside is
that something is still to be answered (`Question.onlyDemands_check_required`).

`Checked.OnlyDemands` says this of a check as a function of whether an answer is required. Most
checks end in one of four ways, of which blank answers alone depend on it
(`Body.Judged.onlyDemands`). A grid goes through its cells first, which objects and never demands,
and then through its rows, which demands and never objects (`Checked.OnlyDemands.after`).
-/

namespace Questionnaire

open Checked (ObjectsOnly)

namespace Checked

/-- Requiring an answer adds nothing to what a check finds but demands for an answer. -/
structure OnlyDemands (check : Bool → Checked) : Prop where
  /-- What is found while no answer is required objects to the answer, and is found as well when one
  is required. -/
  objection : ∀ violation, check false = .error violation →
    violation.isConstraint = true ∧ check true = .error violation
  /-- Where nothing is found while no answer is required, nothing is found when one is, or that
  something is still to be answered. -/
  demand : check false = .ok () →
    check true = .ok () ∨ ∃ violation, check true = .error violation ∧ violation.isRequired = true

/-! ## Parts of checks -/

/-- Nothing is found by a check that passes. -/
theorem ObjectsOnly.ok : ObjectsOnly (.ok ()) := by
  intro violation hfound
  cases hfound

/-- An objection is no demand. -/
theorem ObjectsOnly.error {violation : Violation} (h : violation.isConstraint = true) :
    ObjectsOnly (.error violation) := by
  intro found hfound
  cases hfound
  exact h

/-- A check that objects only, and does not depend on whether an answer is required, demands
nothing. -/
theorem ObjectsOnly.onlyDemands {check : Checked} (h : ObjectsOnly check) :
    OnlyDemands fun _ => check where
  objection violation hfound := ⟨h violation hfound, hfound⟩
  demand hok := .inl hok

/-- Where there is nothing to check, an answer is demanded if one is required. -/
theorem onlyDemands_unanswered : OnlyDemands unanswered where
  objection violation hfound := by cases hfound
  demand _ := .inr ⟨.required, rfl, rfl⟩

/-- A check that objects only, and does not depend on whether an answer is required, may come
before. -/
theorem OnlyDemands.after {first : Checked} {rest : Bool → Checked} (hfirst : ObjectsOnly first)
    (hrest : OnlyDemands rest) : OnlyDemands fun required => (do first; rest required) where
  objection violation hfound := by
    rcases and_then_eq_error_iff.1 hfound with hobjects | ⟨hpasses, hobjects⟩
    · exact ⟨hfirst violation hobjects, and_then_eq_error_iff.2 (.inl hobjects)⟩
    · obtain ⟨hconstraint, hsame⟩ := hrest.objection violation hobjects
      exact ⟨hconstraint, and_then_eq_error_iff.2 (.inr ⟨hpasses, hsame⟩)⟩
  demand hok := by
    obtain ⟨hpasses, hnothing⟩ := and_then_eq_ok_iff.1 hok
    rcases hrest.demand hnothing with hstill | ⟨violation, hdemands, hrequired⟩
    · exact .inl (and_then_eq_ok_iff.2 ⟨hpasses, hstill⟩)
    · exact .inr ⟨violation, and_then_eq_error_iff.2 (.inr ⟨hpasses, hdemands⟩), hrequired⟩

end Checked

open Checked (OnlyDemands)

/-! ## Kinds of questions -/

/-- Of the four ways in which a check can end, a blank answer alone depends on whether one is
required. -/
theorem Body.Judged.onlyDemands {body : Body} {answer : Answer} {check : Bool → Checked}
    (h : body.Judged answer check) : OnlyDemands check := by
  cases h with
  | mismatch => exact (ObjectsOnly.error rfl).onlyDemands
  | blank => exact Checked.onlyDemands_unanswered
  | satisfied => exact ObjectsOnly.ok.onlyDemands
  | violated _ _ _ constraint => exact (ObjectsOnly.error constraint).onlyDemands

namespace Grid

/-- The pass over the rows of a grid finds something only where an answer is required, and then that
rows are missing. -/
theorem onlyDemands_askRows (grid : Grid) (cells : IdMap String) :
    OnlyDemands fun required => grid.askRows required cells where
  objection violation hfound := by cases hfound
  demand _ := by
    simp only [askRows, if_true]
    split
    next => exact .inl rfl
    next =>
      split
      next => exact .inr ⟨.required, rfl, rfl⟩
      next => exact .inr ⟨.incompleteMatrix (grid.missingRows cells), rfl, rfl⟩

/-- Whether an answer is required matters to the pass over the rows of a grid, which comes last. -/
theorem onlyDemands_check (grid : Grid) (answer : Answer) :
    OnlyDemands fun required => grid.check required answer := by
  by_cases hgrid : ∃ cells, answer = .grid cells
  · obtain ⟨cells, rfl⟩ := hgrid
    simp only [check_grid]
    exact .after (.refuseFirst fun _ => rfl) (grid.onlyDemands_askRows cells)
  · simp only [check_of_not_grid fun cells h => hgrid ⟨cells, h⟩]
    exact (ObjectsOnly.error rfl).onlyDemands

end Grid

/-- Requiring an answer adds only demands, whatever the kind of the question. -/
theorem Body.onlyDemands_check (body : Body) (answer : Answer) :
    OnlyDemands fun required => body.check required answer := by
  cases body with
  | matrix grid => exact grid.onlyDemands_check answer
  | sectionBreak => exact ObjectsOnly.ok.onlyDemands
  | multipleChoice | checkboxGroup | likertScale | openText | dropdown | numeric | date | ranking
  | fileUpload => exact (Body.judged answer (by simp [kind]) (by simp [kind])).onlyDemands

namespace Question

/-- A question that is made required finds in an answer, or in that there is none, what it found
before, and what it found before objects to what was answered. Where it found nothing before, it
finds at most that something is still to be answered. -/
theorem onlyDemands_check_required (q : Question) (answer : Option Answer) :
    OnlyDemands fun required => ({ q with required } : Question).check answer := by
  cases answer with
  | some answer => exact q.body.onlyDemands_check answer
  | none =>
    have hcheck : (fun required => ({ q with required } : Question).check none) =
        fun required => Checked.unanswered (required && !q.isSectionBreak) := rfl
    rw [hcheck]
    -- A section break asks for nothing, even if it is said to be required.
    cases q.isSectionBreak with
    | true =>
      simp only [Bool.not_true, Bool.and_false]
      exact ObjectsOnly.ok.onlyDemands
    | false =>
      simp only [Bool.not_false, Bool.and_true]
      exact Checked.onlyDemands_unanswered

/-- A grid of two rows and two columns. -/
def mealGrid : Question where
  id := "meal"
  body := .matrix {
    rows := [⟨"food", .plain "Food"⟩, ⟨"drink", .plain "Drink"⟩]
    columns := [⟨"good", .plain "Good"⟩, ⟨"bad", .plain "Bad"⟩] }

/-- Half an answer is enough as long as none is required; then what is missing of it is demanded. A
cell in a column that there is not is objected to either way. -/
theorem onlyDemands_check_required_mealGrid :
    mealGrid.check (some (.grid (.ofList [("food", "good")]))) = .ok () ∧
      (∃ violation, ({ mealGrid with required := true } : Question).check
          (some (.grid (.ofList [("food", "good")]))) = .error violation ∧
        violation.isRequired = true) ∧
      mealGrid.check (some (.grid (.ofList [("food", "fair")]))) =
        .error (.unknownMatrixCell "food" "fair") ∧
      ({ mealGrid with required := true } : Question).check
          (some (.grid (.ofList [("food", "fair")]))) =
        .error (.unknownMatrixCell "food" "fair") := by
  have hhalf : mealGrid.check (some (.grid (.ofList [("food", "good")]))) = .ok () := by decide
  have hunknown : mealGrid.check (some (.grid (.ofList [("food", "fair")]))) =
      .error (.unknownMatrixCell "food" "fair") := by decide
  refine ⟨hhalf, ?_, hunknown, ((mealGrid.onlyDemands_check_required _).objection _ hunknown).2⟩
  refine ((mealGrid.onlyDemands_check_required _).demand hhalf).resolve_left ?_
  decide

end Question

end Questionnaire
