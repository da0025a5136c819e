import Questionnaire.Proofs.Validation.Emptiness

/-!
# Accepted answers read back

What a question accepts is decided by its check, and what an answer can be read as by its own views
(`Answers.view`). The two agree where it matters: an answer that says something and passes the check
is had from the collected answers in the shape that belongs to the kind of question, and what is had
is within what the question asks (`Question.readsBack_of_validate_eq_ok`). Where the check passes an
answer that is blank, nothing is promised: a blank text passes as an optional rating and is no
number.
-/

namespace Questionnaire

/-- An answer that is there and has the shape asked for is had. -/
theorem Answers.view_eq_ok {α : Type} {answers : Answers} {id expected : String} {answer : Answer}
    {look : Answer → Option α} {a : α} (hanswer : answers.get? id = some answer)
    (hlook : look answer = some a) : answers.view id expected look = .ok a := by
  simp only [Answers.view, hanswer, hlook]

/-- An answer that says something and passes is within what is asked. -/
theorem Body.satisfied_of_check_eq_ok {body : Body} {answer : Answer} {required : Bool}
    (no_grid : body.kind ≠ .matrix) (no_break : body.kind ≠ .sectionBreak)
    (hsaid : answer.isEmpty = false) (hpasses : body.check required answer = .ok ()) :
    body.Satisfied answer := by
  have hjudged : body.Judged answer fun required => body.check required answer :=
    judged answer no_grid no_break
  obtain ⟨takes, ⟨blank, _⟩ | ⟨_, satisfied⟩⟩ := (hjudged.eq_ok_iff required).1 hpasses
  · rw [(isBlank_iff_isEmpty no_grid no_break takes).1 blank] at hsaid
    cases hsaid
  · exact satisfied

namespace Question

/-- The answer to a question is had from the collected answers in the shape that belongs to the kind
of question, as it was given and within what is asked. -/
structure ReadsBack (q : Question) (answers : Answers) (answer : Answer) : Prop where
  /-- A number is had as a finite one. -/
  number : ∀ entry, q.body = .numeric entry → ∃ x : FiniteNumber,
    answers.getNumber q.id = .ok (.finite x) ∧ answer.asNumber? = some (.finite x) ∧
      entry.Satisfied x
  /-- A point on a scale is had as a number. -/
  rating : ∀ scale, q.body = .likertScale scale → ∃ x, answers.getNumber q.id = .ok x ∧
    answer.asNumber? = some x ∧ scale.Satisfied x
  /-- Selected options are had as a list. -/
  selection : ∀ pick, q.body = .checkboxGroup pick → ∃ selected,
    answers.getList q.id = .ok selected ∧ answer = .list selected ∧ pick.Satisfied selected
  /-- An order of options is had as a list. -/
  ranking : ∀ order, q.body = .ranking order → ∃ ranked,
    answers.getList q.id = .ok ranked ∧ answer = .list ranked ∧ order.Satisfied ranked
  /-- Files are had as files. -/
  files : ∀ upload, q.body = .fileUpload upload → ∃ uploads,
    answers.getFiles q.id = .ok uploads ∧ answer = .files uploads ∧ upload.Satisfied uploads
  /-- Cells are had as a grid. -/
  cells : ∀ grid, q.body = .matrix grid → ∃ cells,
    answers.getGrid q.id = .ok cells ∧ answer = .grid cells ∧ grid.Knows cells
  /-- A date is had as a text. -/
  date : ∀ entry, q.body = .date entry → ∃ s day,
    answers.getText q.id = .ok s ∧ answer = .text s ∧ entry.Satisfied (Text.trim s) day

/-- An answer that says something and passes its check is had in the shape that belongs to the kind
of question. -/
theorem readsBack_of_validate_eq_ok {q : Question} {answers : Answers} {answer : Answer}
    (hanswer : answers.get? q.id = some answer) (hsaid : answer.isEmpty = false)
    (hpasses : q.validate answers = .ok ()) : q.ReadsBack answers answer := by
  have hcheck : q.body.check q.required answer = .ok () := by
    rw [validate, hanswer, check] at hpasses
    exact hpasses
  have hsatisfied : ∀ (kind : Kind) {body : Body}, q.body = body → body.kind = kind →
      kind ≠ .matrix ∧ kind ≠ .sectionBreak → body.Satisfied answer := by
    rintro _ _ rfl rfl ⟨no_grid, no_break⟩
    exact Body.satisfied_of_check_eq_ok no_grid no_break hsaid hcheck
  constructor
  case number =>
    intro entry hbody
    obtain ⟨x, hx, satisfied⟩ := hsatisfied .numeric hbody rfl (by decide)
    exact ⟨x, Answers.view_eq_ok hanswer hx, hx, satisfied⟩
  case rating =>
    intro scale hbody
    obtain ⟨x, hx, satisfied⟩ := hsatisfied .likertScale hbody rfl (by decide)
    exact ⟨x, Answers.view_eq_ok hanswer hx, hx, satisfied⟩
  case selection =>
    intro pick hbody
    obtain ⟨selected, rfl, satisfied⟩ := hsatisfied .checkboxGroup hbody rfl (by decide)
    exact ⟨selected, Answers.view_eq_ok hanswer rfl, rfl, satisfied⟩
  case ranking =>
    intro order hbody
    obtain ⟨ranked, rfl, satisfied⟩ := hsatisfied .ranking hbody rfl (by decide)
    exact ⟨ranked, Answers.view_eq_ok hanswer rfl, rfl, satisfied⟩
  case files =>
    intro upload hbody
    obtain ⟨uploads, huploads, satisfied⟩ := hsatisfied .fileUpload hbody rfl (by decide)
    -- The empty list would read as no files, but it says nothing.
    obtain rfl | ⟨rfl, -⟩ := Answer.asFiles?_eq_some_iff.1 huploads
    · exact ⟨uploads, Answers.view_eq_ok hanswer rfl, rfl, satisfied⟩
    · cases hsaid
  case cells =>
    intro grid hbody
    rw [hbody, Body.check] at hcheck
    obtain ⟨cells, rfl, known, _⟩ := Grid.check_eq_ok_iff.1 hcheck
    exact ⟨cells, Answers.view_eq_ok hanswer rfl, rfl, known⟩
  case date =>
    intro entry hbody
    obtain ⟨s, day, rfl, satisfied⟩ := hsatisfied .date hbody rfl (by decide)
    exact ⟨s, day, Answers.view_eq_ok hanswer rfl, rfl, satisfied⟩

/-- A question that asks how a meal was, from one to five. -/
def mealRating : Question where
  id := "meal"
  required := true
  body := .likertScale {}

/-- A rating in writing is had as a number. -/
theorem readsBack_of_validate_eq_ok_mealRating :
    let answers : Answers := .ofList [("meal", .text " 4 ")]
    answers.get? mealRating.id = some (.text " 4 ") ∧ (Answer.text " 4 ").isEmpty = false ∧
      mealRating.validate answers = .ok () ∧
      ∃ x, answers.getNumber "meal" = .ok x ∧ RatingScale.Satisfied {} x := by
  intro answers
  have hanswer : answers.get? mealRating.id = some (.text " 4 ") := by decide
  have hpasses : mealRating.validate answers = .ok () := by decide
  obtain ⟨x, hx, -, satisfied⟩ :=
    (readsBack_of_validate_eq_ok hanswer (by decide) hpasses).rating {} rfl
  exact ⟨hanswer, by decide, hpasses, x, hx, satisfied⟩

end Question

end Questionnaire
