import Questionnaire.Interview.Operations
import Questionnaire.Proofs.Except

/-!
# What one operation does

The operations on an interview are programs that stop at the first refusal. For each of them a
lemma says when it gives a result and which (`respond_eq_ok_iff` and so on), and `Transition`
gathers these into a relation with one constructor for each thing that an operation can do, guards
included. Every step is such a transition (`step_transition`), so a property of all steps is proved
by cases on the transition, without opening an operation again.
-/

namespace Questionnaire.Interview

variable {σ : Type}

/-! ## Guards -/

/-- An interview is answering at the place of the cursor. -/
theorem requireAnswering_eq_ok_iff {i : Interview σ} {position : Nat} :
    i.requireAnswering = .ok position ↔ i.stage = .answering position := by
  unfold requireAnswering
  split
  next h => simp [h]
  next h => simp [h]

/-- A question is found when it is the first with the id. -/
theorem requireQuestion_eq_ok_iff {survey : Survey} {id : String} {q : Question} :
    requireQuestion survey id = .ok q ↔ survey.question? id = some q := by
  unfold requireQuestion
  split
  next h => simp [h]
  next h => simp [h]

/-- Going on is allowed when the current question, if there is one, is answered as it asks. -/
theorem requireValid_eq_ok_iff {survey : Survey} {i : Interview σ} :
    i.requireValid survey = .ok () ↔
      ∀ q, i.current? survey = some q → q.validate i.answers = .ok () := by
  unfold requireValid
  split
  next h => simp [h]
  next q h =>
    simp only [h, Option.some.injEq, forall_eq']
    split
    next hvalid => simp [hvalid]
    next violation hinvalid => simp [hinvalid]

/-! ## The interview after an answer -/

/-- The interview with an answer to a question recorded, the cursor still where it was. -/
def recorded (survey : Survey) (i : Interview σ) (q : Question) (answer : Answer) : Interview σ :=
  { i with
    answers := i.answers.insert q.id answer
    visibility := .resolve survey.questions (i.answers.insert q.id answer) }

/-- The place of the cursor after an answer, before it moves on by itself. -/
def keptPosition (survey : Survey) (i : Interview σ) (position : Nat) (q : Question)
    (answer : Answer) : Nat :=
  cursorAmong ((i.recorded survey q answer).visible survey) (i.current? survey) position

/-- Whether the cursor moves on by itself after an answer. -/
def movesOn (survey : Survey) (i : Interview σ) (position : Nat) (q : Question)
    (answer : Answer) : Bool :=
  advances survey ((i.recorded survey q answer).visible survey) (i.current? survey)
    (i.keptPosition survey position q answer) q (q.validate (i.recorded survey q answer).answers)

/-- The interview after an answer to a question. -/
def afterAnswer (survey : Survey) (i : Interview σ) (position : Nat) (q : Question)
    (answer : Answer) : Interview σ :=
  { i.recorded survey q answer with
    stage := .answering (
      if i.movesOn survey position q answer then i.keptPosition survey position q answer + 1
      else i.keptPosition survey position q answer) }

/-- After an answer the survey is being answered at the place kept or beyond. -/
theorem exists_stage_afterAnswer (survey : Survey) (i : Interview σ) (position : Nat) (q : Question)
    (answer : Answer) :
    ∃ place, (i.afterAnswer survey position q answer).stage = .answering place ∧
      i.keptPosition survey position q answer ≤ place := by
  refine ⟨_, rfl, ?_⟩
  split
  next => exact Nat.le_succ _
  next => exact Nat.le_refl _

/-- What comes of an answer to a question. -/
def outcome (survey : Survey) (i : Interview σ) (position : Nat) (q : Question) (answer : Answer) :
    Outcome where
  visibility := (i.recorded survey q answer).visibility
  validation := q.validate (i.recorded survey q answer).answers
  advanced := i.movesOn survey position q answer

/-- The cursor moves on by itself when the survey says so, the answer is to the current question,
which asks for it and is visible at the place of the cursor, and another one follows there. -/
theorem movesOn_eq_true_iff {survey : Survey} {i : Interview σ} {position : Nat} {q : Question}
    {answer : Answer} :
    i.movesOn survey position q answer = true ↔
      survey.settings.navigation = .autoAdvance ∧
        (∃ current, i.current? survey = some current ∧ current.id = q.id) ∧
        q.validate (i.recorded survey q answer).answers = .ok () ∧
        (∃ found, ((i.recorded survey q answer).visible survey)[
            i.keptPosition survey position q answer]? = some found ∧ found.id = q.id) ∧
        i.keptPosition survey position q answer + 1 <
          ((i.recorded survey q answer).visible survey).length := by
  unfold movesOn advances
  cases q.validate (i.recorded survey q answer).answers with
  | error violation => simp
  | ok => simp [and_assoc, Option.any_eq_true]

/-! ## When an operation gives a result -/

/-- An answer is recorded while the survey is being answered, to a question that there is. -/
theorem respond_eq_ok_iff {survey : Survey} {i after : Interview σ} {id : String} {answer : Answer}
    {result : Outcome} :
    i.respond survey id answer = .ok (after, result) ↔
      ∃ position q, i.stage = .answering position ∧ survey.question? id = some q ∧
        after = i.afterAnswer survey position q answer ∧
        result = i.outcome survey position q answer := by
  simp only [respond, bind_eq_ok_iff, requireAnswering_eq_ok_iff, requireQuestion_eq_ok_iff]
  constructor
  · rintro ⟨position, hstage, q, hq, h⟩
    cases h
    exact ⟨position, q, hstage, hq, rfl, rfl⟩
  · rintro ⟨position, q, hstage, hq, rfl, rfl⟩
    exact ⟨position, hstage, q, hq, rfl⟩

/-- The cursor is moved on from a question that is answered as it asks, as far as there are visible
questions. -/
theorem next_eq_ok_iff {survey : Survey} {i after : Interview σ} {move : Move} :
    i.next survey = .ok (after, move) ↔
      ∃ position, i.stage = .answering position ∧ i.requireValid survey = .ok () ∧
        ((position + 1 < (i.visible survey).length ∧
            after = { i with stage := .answering (position + 1) } ∧ move = .moved (position + 1)) ∨
          ((i.visible survey).length ≤ position + 1 ∧ after = i ∧ move = .stayed)) := by
  simp only [next, bind_eq_ok_iff, requireAnswering_eq_ok_iff]
  constructor
  · rintro ⟨position, hstage, ⟨⟩, hvalid, h⟩
    refine ⟨position, hstage, hvalid, ?_⟩
    split at h
    next hend =>
      cases h
      exact .inr ⟨hend, rfl, rfl⟩
    next hmore =>
      cases h
      exact .inl ⟨Nat.lt_of_not_le hmore, rfl, rfl⟩
  · rintro ⟨position, hstage, hvalid, ⟨hmore, rfl, rfl⟩ | ⟨hend, rfl, rfl⟩⟩
    · exact ⟨position, hstage, (), hvalid, if_neg (Nat.not_le_of_lt hmore)⟩
    · exact ⟨position, hstage, (), hvalid, if_pos hend⟩

/-- The cursor is moved back as far as the first visible question. -/
theorem previous_eq_ok_iff {i after : Interview σ} {move : Move} :
    i.previous = .ok (after, move) ↔
      (i.stage = .answering 0 ∧ after = i ∧ move = .stayed) ∨
        ∃ position, i.stage = .answering (position + 1) ∧
          after = { i with stage := .answering position } ∧ move = .moved position := by
  simp only [previous, bind_eq_ok_iff, requireAnswering_eq_ok_iff]
  constructor
  · rintro ⟨_ | position, hstage, h⟩
    · cases h
      exact .inl ⟨hstage, rfl, rfl⟩
    · cases h
      exact .inr ⟨position, hstage, rfl, rfl⟩
  · rintro (⟨hstage, rfl, rfl⟩ | ⟨position, hstage, rfl, rfl⟩)
    · exact ⟨0, hstage, rfl⟩
    · exact ⟨position + 1, hstage, rfl⟩

/-- The report that would be drawn up of the interview. -/
def draftReport (survey : Survey) (i : Interview σ) : Report :=
  .capture survey.id (i.presented survey) i.answers i.visibility i.locale

/-- The survey is submitted while it is being answered and the current question is answered as it
asks. -/
theorem submit_eq_ok_iff {survey : Survey} {i after : Interview σ} {report : Report} :
    i.submit survey = .ok (after, report) ↔
      ∃ position, i.stage = .answering position ∧ i.requireValid survey = .ok () ∧
        after = { i with stage := .completed (i.draftReport survey) } ∧
        report = i.draftReport survey := by
  simp only [submit, bind_eq_ok_iff, requireAnswering_eq_ok_iff]
  constructor
  · rintro ⟨position, hstage, ⟨⟩, hvalid, h⟩
    cases h
    exact ⟨position, hstage, hvalid, rfl, rfl⟩
  · rintro ⟨position, hstage, hvalid, rfl, rfl⟩
    exact ⟨position, hstage, (), hvalid, rfl⟩

/-- The language is changed while the survey is being answered, to one that it has. -/
theorem setLanguage_eq_ok_iff {survey : Survey} {i after : Interview σ} {language : String} :
    i.setLanguage survey language = .ok after ↔
      ∃ position, i.stage = .answering position ∧
        survey.settings.supportsLanguage language = true ∧
        after = { i with locale := { i.locale with active := language } } := by
  simp only [setLanguage, bind_eq_ok_iff, requireAnswering_eq_ok_iff]
  constructor
  · rintro ⟨position, hstage, h⟩
    split at h
    next hsupported =>
      cases h
      exact ⟨position, hstage, hsupported, rfl⟩
    next => cases h
  · rintro ⟨position, hstage, hsupported, rfl⟩
    exact ⟨position, hstage, if_pos hsupported⟩

variable [Source σ]

/-- Options are presented of a question that there is. -/
theorem presentOptions_eq_ok_iff {survey : Survey} {i after : Interview σ} {id : String}
    {options : List Choice} :
    i.presentOptions survey id = .ok (after, options) ↔
      ∃ q, survey.question? id = some q ∧
        after = { i with draws := (q.presentedOptions i.draws).2 } ∧
        options = (q.presentedOptions i.draws).1 := by
  simp only [presentOptions, bind_eq_ok_iff, requireQuestion_eq_ok_iff]
  constructor
  · rintro ⟨q, hq, h⟩
    cases h
    exact ⟨q, hq, rfl, rfl⟩
  · rintro ⟨q, hq, rfl, rfl⟩
    exact ⟨q, hq, rfl⟩

/-! ## The relation -/

/-- What an operation can do: the interview after it, and the reply. -/
inductive Transition (survey : Survey) (i : Interview σ) :
    Operation → Interview σ → Reply → Prop where
  /-- The operation is refused. -/
  | refused (operation : Operation) (refusal : Refusal) :
    Transition survey i operation i (.refused refusal)
  /-- An answer is recorded. -/
  | answered {position : Nat} {q : Question} {id : String} (answer : Answer)
    (stage : i.stage = .answering position) (question : survey.question? id = some q) :
    Transition survey i (.respond id answer) (i.afterAnswer survey position q answer)
      (.responded (i.outcome survey position q answer))
  /-- The cursor moves on. -/
  | movedOn {position : Nat} (stage : i.stage = .answering position)
    (valid : i.requireValid survey = .ok ()) (more : position + 1 < (i.visible survey).length) :
    Transition survey i .next { i with stage := .answering (position + 1) }
      (.moved (.moved (position + 1)))
  /-- The cursor is at the end and stays. -/
  | atEnd {position : Nat} (stage : i.stage = .answering position)
    (valid : i.requireValid survey = .ok ()) (last : (i.visible survey).length ≤ position + 1) :
    Transition survey i .next i (.moved .stayed)
  /-- The cursor moves back. -/
  | movedBack {position : Nat} (stage : i.stage = .answering (position + 1)) :
    Transition survey i .previous { i with stage := .answering position } (.moved (.moved position))
  /-- The cursor is at the start and stays. -/
  | atStart (stage : i.stage = .answering 0) : Transition survey i .previous i (.moved .stayed)
  /-- The survey is submitted. -/
  | submitted {position : Nat} (stage : i.stage = .answering position)
    (valid : i.requireValid survey = .ok ()) :
    Transition survey i .submit { i with stage := .completed (i.draftReport survey) }
      (.submitted (i.draftReport survey))
  /-- The language is changed. -/
  | languageSet {position : Nat} {language : String} (stage : i.stage = .answering position)
    (supported : survey.settings.supportsLanguage language = true) :
    Transition survey i (.setLanguage language)
      { i with locale := { i.locale with active := language } } .languageSet
  /-- Options are presented. -/
  | optionsPresented {q : Question} {id : String} (question : survey.question? id = some q) :
    Transition survey i (.presentOptions id)
      { i with draws := (q.presentedOptions i.draws).2 }
      (.presented (q.presentedOptions i.draws).1)

/-- Every step is a transition. -/
theorem step_transition (survey : Survey) (i : Interview σ) (operation : Operation) :
    Transition survey i operation (i.step survey operation).1 (i.step survey operation).2 := by
  -- Each operation is refused, which leaves the interview as it is, or does what its own
  -- equivalence says of it.
  cases operation with
  | respond id answer =>
    rw [step]
    cases h : i.respond survey id answer with
    | error refusal => exact .refused _ refusal
    | ok result =>
      obtain ⟨position, q, hstage, hq, hafter, hresult⟩ := respond_eq_ok_iff.1 h
      rw [settle, hafter, hresult]
      exact .answered answer hstage hq
  | next =>
    rw [step]
    cases h : i.next survey with
    | error refusal => exact .refused _ refusal
    | ok result =>
      obtain ⟨position, hstage, hvalid, ⟨hmore, hafter, hmove⟩ | ⟨hlast, hafter, hmove⟩⟩ :=
        next_eq_ok_iff.1 h
      · rw [settle, hafter, hmove]
        exact .movedOn hstage hvalid hmore
      · rw [settle, hafter, hmove]
        exact .atEnd hstage hvalid hlast
  | previous =>
    rw [step]
    cases h : i.previous with
    | error refusal => exact .refused _ refusal
    | ok result =>
      obtain ⟨hstage, hafter, hmove⟩ | ⟨position, hstage, hafter, hmove⟩ :=
        previous_eq_ok_iff.1 h
      · rw [settle, hafter, hmove]
        exact .atStart hstage
      · rw [settle, hafter, hmove]
        exact .movedBack hstage
  | submit =>
    rw [step]
    cases h : i.submit survey with
    | error refusal => exact .refused _ refusal
    | ok result =>
      obtain ⟨position, hstage, hvalid, hafter, hreport⟩ := submit_eq_ok_iff.1 h
      rw [settle, hafter, hreport]
      exact .submitted hstage hvalid
  | setLanguage language =>
    rw [step]
    cases h : i.setLanguage survey language with
    | error refusal => exact .refused _ refusal
    | ok after =>
      obtain ⟨position, hstage, hsupported, hafter⟩ := setLanguage_eq_ok_iff.1 h
      rw [Except.map, settle, hafter]
      exact .languageSet hstage hsupported
  | presentOptions id =>
    rw [step]
    cases h : i.presentOptions survey id with
    | error refusal => exact .refused _ refusal
    | ok result =>
      obtain ⟨q, hq, hafter, hoptions⟩ := presentOptions_eq_ok_iff.1 h
      rw [settle, hafter, hoptions]
      exact .optionsPresented hq

/-- The interview after an answer that is recorded. -/
theorem step_respond_fst {survey : Survey} {i : Interview σ} {position : Nat} {id : String}
    {q : Question} (hstage : i.stage = .answering position) (hq : survey.question? id = some q)
    (answer : Answer) :
    (i.step survey (.respond id answer)).1 = i.afterAnswer survey position q answer := by
  rw [step, respond_eq_ok_iff.2 ⟨position, q, hstage, hq, rfl, rfl⟩, settle]

/-! ## Runs -/

/-- A history in two parts is the second after the first. -/
theorem run_append (survey : Survey) (i : Interview σ) (xs ys : List Operation) :
    i.run survey (xs ++ ys) = (i.run survey xs).run survey ys :=
  List.foldl_append

/-- What every transition keeps, a run keeps. -/
theorem run_induction {survey : Survey} {P : Interview σ → Prop}
    (hstep : ∀ {i after : Interview σ} {operation : Operation} {reply : Reply},
      Transition survey i operation after reply → P i → P after)
    {i : Interview σ} (h : P i) (history : List Operation) : P (i.run survey history) := by
  induction history generalizing i with
  | nil => exact h
  | cons operation rest ih => exact ih (hstep (step_transition survey i operation) h)

end Questionnaire.Interview
