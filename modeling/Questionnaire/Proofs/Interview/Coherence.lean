import Questionnaire.Proofs.IdMap
import Questionnaire.Proofs.Interview.Transition
import Questionnaire.Proofs.Shuffle.Permutation

/-!
# Coherence of interviews

The state of an interview holds the answers and what follows from them. A state is *coherent* when
its order of presentation has each question once, its visibility is that of its answers, and its
language is one that the survey has. Every transition keeps a state coherent and leaves the order of
presentation, so every state of every run is coherent (`Coherent.run`) and presents the questions in
the order drawn at the start (`order_run`).

The answers themselves are accounted for by the history. An operation records an answer when it is
an answer and is not refused (`recordedBy?`), and what a state holds for a question is what the
history last recorded for it (`get?_answers_run`).
-/

namespace Questionnaire.Interview

variable {σ : Type} [Source σ]

/-! ## The start -/

/-- An interview starts in a language that the survey has, at the first of the questions in their
order of presentation, without answers. -/
theorem start_eq_ok_iff {survey : Survey} {draws : σ} {language : Option String}
    {i : Interview σ} :
    start survey draws language = .ok i ↔
      survey.settings.supportsLanguage (language.getD survey.settings.defaultLanguage) = true ∧
        i = {
          order := (presentationOrder survey.questions survey.settings.randomizeQuestions
            survey.settings.respectSections draws).1
          answers := .empty
          visibility := .resolve survey.questions .empty
          stage := .answering 0
          locale := { survey.settings.locale with
            active := language.getD survey.settings.defaultLanguage }
          draws := (presentationOrder survey.questions survey.settings.randomizeQuestions
            survey.settings.respectSections draws).2 } := by
  simp only [start]
  by_cases h : survey.settings.supportsLanguage
    (language.getD survey.settings.defaultLanguage) = true
  · simp only [h, if_true, Except.ok.injEq, true_and]
    exact eq_comm
  · simp only [h, if_false, reduceCtorEq, false_and]

/-! ## Coherent states -/

/-- What a state holds fits together and fits the survey. -/
structure Coherent (survey : Survey) (i : Interview σ) : Prop where
  /-- The order of presentation has each place of a question once. -/
  order_perm : i.order.Perm (List.range survey.questions.length)
  /-- The visibility is that of the answers. -/
  visibility_eq : i.visibility = .resolve survey.questions i.answers
  /-- The survey has the language. -/
  language : survey.settings.supportsLanguage i.locale.active = true

namespace Coherent

variable {survey : Survey} {i after : Interview σ}

/-- An interview starts coherent. -/
theorem start {draws : σ} {language : Option String}
    (h : Interview.start survey draws language = .ok i) : Coherent survey i := by
  obtain ⟨hsupported, rfl⟩ := start_eq_ok_iff.1 h
  exact ⟨presentationOrder_perm _ _ _ draws, rfl, hsupported⟩

/-- An operation keeps a state coherent. -/
theorem transition {operation : Operation} {reply : Reply}
    (h : Transition survey i operation after reply) (hi : Coherent survey i) :
    Coherent survey after := by
  obtain ⟨horder, hvisibility, hlanguage⟩ := hi
  cases h with
  | answered => exact ⟨horder, rfl, hlanguage⟩
  | languageSet _ supported => exact ⟨horder, hvisibility, supported⟩
  | refused | movedOn | atEnd | movedBack | atStart | submitted | optionsPresented =>
    exact ⟨horder, hvisibility, hlanguage⟩

/-- A history of operations keeps a state coherent. -/
theorem run (hi : Coherent survey i) (history : List Operation) :
    Coherent survey (i.run survey history) :=
  run_induction transition hi history

end Coherent

/-- An operation leaves the order of presentation. -/
theorem Transition.order_eq {survey : Survey} {i after : Interview σ} {operation : Operation}
    {reply : Reply} (h : Transition survey i operation after reply) : after.order = i.order := by
  cases h <;> rfl

/-- A history of operations leaves the order of presentation. -/
theorem order_run (survey : Survey) (i : Interview σ) (history : List Operation) :
    (i.run survey history).order = i.order :=
  run_induction (P := fun j => j.order = i.order) (fun h hi => h.order_eq.trans hi) rfl history

/-! ## Answers and the history -/

/-- The answer that an operation recorded for a question, given the reply to it. -/
def recordedBy? (id : String) : Operation × Reply → Option Answer
  | (.respond other answer, .responded _) => if other = id then some answer else none
  | _ => none

/-- The operations of a history, each with the reply to it. -/
def trace (survey : Survey) (i : Interview σ) (history : List Operation) :
    List (Operation × Reply) :=
  history.zip (i.replies survey history)

/-- The answer last recorded for a question. -/
def lastRecorded? (id : String) (trace : List (Operation × Reply)) : Option Answer :=
  trace.reverse.findSome? (recordedBy? id)

/-- A question found by its id has the id. -/
theorem id_of_question?_eq_some {survey : Survey} {id : String} {q : Question}
    (h : survey.question? id = some q) : q.id = id := by
  simpa using List.find?_some h

/-- After an operation a question has the answer that was recorded for it, or else the one that it
had. -/
theorem Transition.get?_answers {survey : Survey} {i after : Interview σ} {operation : Operation}
    {reply : Reply} (h : Transition survey i operation after reply) (id : String) :
    after.answers.get? id = (recordedBy? id (operation, reply)).or (i.answers.get? id) := by
  cases h with
  | answered answer stage question =>
    rw [afterAnswer, recorded, IdMap.get?_insert, id_of_question?_eq_some question, recordedBy?]
    split
    next heq => rw [if_pos heq.symm, Option.some_or]
    next hne => rw [if_neg (Ne.symm hne), Option.none_or]
  | refused => cases operation <;> rfl
  | _ => rfl

/-- After a history a question has the answer last recorded for it, or else the one that it had
before. -/
theorem get?_answers_run (survey : Survey) (i : Interview σ) (history : List Operation)
    (id : String) :
    (i.run survey history).answers.get? id =
      (lastRecorded? id (i.trace survey history)).or (i.answers.get? id) := by
  induction history generalizing i with
  | nil => rfl
  | cons operation rest ih =>
    have hrun : i.run survey (operation :: rest) =
        (i.step survey operation).1.run survey rest := rfl
    have htrace : i.trace survey (operation :: rest) =
        (operation, (i.step survey operation).2) :: (i.step survey operation).1.trace survey rest :=
      rfl
    -- What the first operation recorded counts only where the rest of the history records nothing.
    rw [hrun, ih, (step_transition survey i operation).get?_answers id, htrace, lastRecorded?,
      lastRecorded?, List.reverse_cons, List.findSome?_append, Option.or_assoc]
    simp

/-- After any history of operations on an interview, refused ones included, every question has the
answer last recorded for it and no other, visibility is what the answers resolve to, the order of
presentation is the one drawn at the start and has each place of a question once, and the survey has
the language. -/
theorem run_coherent {survey : Survey} {draws : σ} {language : Option String}
    {i : Interview σ} (h : start survey draws language = .ok i) (history : List Operation) :
    (∀ id, (i.run survey history).answers.get? id = lastRecorded? id (i.trace survey history)) ∧
      (i.run survey history).visibility =
        .resolve survey.questions (i.run survey history).answers ∧
      (i.run survey history).order = (presentationOrder survey.questions
        survey.settings.randomizeQuestions survey.settings.respectSections draws).1 ∧
      (i.run survey history).order.Perm (List.range survey.questions.length) ∧
      survey.settings.supportsLanguage (i.run survey history).locale.active = true := by
  obtain ⟨hperm, hvisibility, hlanguage⟩ := (Coherent.start h).run history
  obtain ⟨-, hstart⟩ := start_eq_ok_iff.1 h
  refine ⟨fun id => ?_, hvisibility, ?_, hperm, hlanguage⟩
  · rw [get?_answers_run, hstart, IdMap.get?_empty, Option.or_none]
  · rw [order_run, hstart]

/-- The answer `yes` to `pet` reveals `name`. -/
def petSurvey : Survey where
  id := "pets"
  questions :=
    [{ id := "pet", body := .openText {}, rules := [⟨"name", .reveal, .equals, .text "yes"⟩] },
     { id := "name", body := .openText {}, required := true }]

/-- A respondent names a pet, takes back having one, asks for a language and a question that the
survey does not have, and submits. -/
def petHistory : List Operation :=
  [.respond "pet" (.text "yes"), .next, .respond "name" (.text "Rex"), .respond "pet" (.text "no"),
   .setLanguage "fr", .respond "owner" (.text "Ada"), .submit]

/-- The name given stays although its question is hidden in the end. -/
theorem run_coherent_petSurvey :
    ∃ i, start petSurvey (Keystream.ofSeed 0) none = .ok i ∧
      (i.run petSurvey petHistory).answers.get? "name" = some (.text "Rex") ∧
      (i.run petSurvey petHistory).visibility.get? "name" = some false := by
  have hstart : start petSurvey (Keystream.ofSeed 0) none = .ok _ := rfl
  obtain ⟨hanswers, hvisibility, -⟩ := run_coherent hstart petHistory
  refine ⟨_, hstart, ?_, ?_⟩
  · rw [hanswers]
    rfl
  · rw [hvisibility]
    rfl

end Questionnaire.Interview
