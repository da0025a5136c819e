import Questionnaire.Proofs.Interview.Coherence

/-!
# Presentations of options

All shuffles of an interview draw from one source: first the order in which the questions are
presented, then the options of a question each time they are presented. Were anything drawn besides,
by another operation or by one that is refused, all later shuffles would be others.

Nothing is. A transition either presents the options of a question, drawing what they need, or
leaves the source as it is (`Transition.draws_cases`). So the lists presented along a history are
those of the questions asked for, presented one after the other with nothing in between
(`presentations_trace`). Interviews that draw from the same source and are asked for the same
questions in the same order therefore present the same lists (`presentations_determined`).
-/

namespace Questionnaire.Interview

variable {σ : Type} [Source σ] {survey : Survey} {i j after : Interview σ}

/-! ## What a history presents -/

/-- The options that an operation presented, with the id of their question, given the reply to
it. -/
def presentedBy? : Operation × Reply → Option (String × List Choice)
  | (.presentOptions id, .presented options) => some (id, options)
  | _ => none

/-- The options that were presented along a trace, each time with the id of their question. -/
def presentations (trace : List (Operation × Reply)) : List (String × List Choice) :=
  trace.filterMap presentedBy?

/-- The options of the questions with the ids, presented one after the other from one source. -/
def presentInTurn (survey : Survey) : List String → σ → List (String × List Choice)
  | [], _ => []
  | id :: rest, draws =>
    match survey.question? id with
    | some q =>
      let (options, draws) := q.presentedOptions draws
      (id, options) :: presentInTurn survey rest draws
    | none => presentInTurn survey rest draws

/-- What is presented in turn, where there is a first question to present. -/
theorem presentInTurn_cons {id : String} {q : Question} (h : survey.question? id = some q)
    (rest : List String) (draws : σ) :
    presentInTurn survey (id :: rest) draws =
      (id, (q.presentedOptions draws).1) ::
        presentInTurn survey rest (q.presentedOptions draws).2 := by
  rw [presentInTurn, h]

/-- An operation presents the options of a question and draws what they need, or it presents nothing
and draws nothing. -/
theorem Transition.draws_cases {operation : Operation} {reply : Reply}
    (h : Transition survey i operation after reply) :
    (∃ id q, survey.question? id = some q ∧
        presentedBy? (operation, reply) = some (id, (q.presentedOptions i.draws).1) ∧
        after.draws = (q.presentedOptions i.draws).2) ∨
      (presentedBy? (operation, reply) = none ∧ after.draws = i.draws) := by
  cases h with
  | optionsPresented question => exact .inl ⟨_, _, question, rfl, rfl⟩
  | refused operation => exact .inr ⟨by cases operation <;> rfl, rfl⟩
  | answered | movedOn | atEnd | movedBack | atStart | submitted | languageSet =>
    exact .inr ⟨rfl, rfl⟩

/-- The options presented along a history are those of the questions asked for, presented in turn
from the source that the interview has at its beginning. -/
theorem presentations_trace (survey : Survey) (i : Interview σ) (history : List Operation) :
    presentations (i.trace survey history) =
      presentInTurn survey ((presentations (i.trace survey history)).map Prod.fst) i.draws := by
  induction history generalizing i with
  | nil => rfl
  | cons operation rest ih =>
    have htrace : i.trace survey (operation :: rest) =
        (operation, (i.step survey operation).2) :: (i.step survey operation).1.trace survey rest :=
      rfl
    rw [htrace, presentations, List.filterMap_cons]
    -- The rest of the history draws from the source as the first operation leaves it.
    obtain ⟨id, q, hq, hpresented, hdraws⟩ | ⟨hpresented, hdraws⟩ :=
      (step_transition survey i operation).draws_cases
    · rw [hpresented, List.map_cons, presentInTurn_cons hq, ← hdraws]
      exact congrArg _ (ih _)
    · rw [hpresented, ← hdraws]
      exact ih _

/-- What is presented in turn are the options of questions of the survey, each option once, and in
authored order where the question does not shuffle them. -/
theorem exists_question_of_mem_presentInTurn {ids : List String} {draws : σ} {id : String}
    {options : List Choice} (h : (id, options) ∈ presentInTurn survey ids draws) :
    ∃ q, survey.question? id = some q ∧ options.Perm q.body.options ∧
      (q.body.randomizesOptions = false → options = q.body.options) := by
  induction ids generalizing draws with
  | nil => cases h
  | cons head rest ih =>
    cases hhead : survey.question? head with
    | none =>
      rw [presentInTurn, hhead] at h
      exact ih h
    | some q =>
      rw [presentInTurn_cons hhead] at h
      rcases List.mem_cons.1 h with heq | h
      · cases heq
        refine ⟨q, hhead, q.presentedOptions_perm draws, fun hfixed => ?_⟩
        rw [Question.presentedOptions_of_fixed hfixed]
      · exact ih h

/-! ## Two interviews -/

/-- Interviews that start with the same source start with the same order of presentation, and the
same source is left to them. -/
theorem shuffles_start_eq {draws : σ} {first second : Option String}
    (hi : start survey draws first = .ok i) (hj : start survey draws second = .ok j) :
    i.order = j.order ∧ i.draws = j.draws := by
  obtain ⟨-, rfl⟩ := start_eq_ok_iff.1 hi
  obtain ⟨-, rfl⟩ := start_eq_ok_iff.1 hj
  exact ⟨rfl, rfl⟩

/-- Two interviews on a survey that draw from the same source, in whatever languages they start,
have the same order of presentation throughout. If the options of the same questions are presented
in the same sequence, they are presented in the same order each time, whatever else is done or
refused in between. What is presented are always the options of the question, each once, and in
authored order if the question does not shuffle them. -/
theorem presentations_determined {draws : σ} {first second : Option String}
    (hi : start survey draws first = .ok i) (hj : start survey draws second = .ok j)
    {xs ys : List Operation}
    (hasked : (presentations (i.trace survey xs)).map Prod.fst =
      (presentations (j.trace survey ys)).map Prod.fst) :
    (i.run survey xs).order = (j.run survey ys).order ∧
      presentations (i.trace survey xs) = presentations (j.trace survey ys) ∧
      ∀ id options, (id, options) ∈ presentations (i.trace survey xs) →
        ∃ q, survey.question? id = some q ∧ options.Perm q.body.options ∧
          (q.body.randomizesOptions = false → options = q.body.options) := by
  obtain ⟨horder, hdraws⟩ := shuffles_start_eq hi hj
  refine ⟨?_, ?_, fun id options h => ?_⟩
  · rw [order_run, order_run, horder]
  · calc presentations (i.trace survey xs)
      _ = presentInTurn survey ((presentations (i.trace survey xs)).map Prod.fst) i.draws :=
          presentations_trace survey i xs
      _ = presentInTurn survey ((presentations (j.trace survey ys)).map Prod.fst) j.draws := by
          rw [hasked, hdraws]
      _ = presentations (j.trace survey ys) := (presentations_trace survey j ys).symm
  · rw [presentations_trace] at h
    exact exists_question_of_mem_presentInTurn h

/-- A choice of drinks, shuffled, and a choice of cups, not shuffled, in two languages. -/
def drinkSurvey : Survey where
  id := "drinks"
  settings := { languages := ["en", "de"], randomizeQuestions := true }
  questions :=
    [{ id := "drink", required := true, body := .multipleChoice {
        options := [⟨"tea", .plain "Tea"⟩, ⟨"milk", .plain "Milk"⟩, ⟨"water", .plain "Water"⟩]
        randomize := true } },
     { id := "cup", body := .dropdown {
        options := [⟨"small", .plain "Small"⟩, ⟨"large", .plain "Large"⟩] } }]

/-- A respondent has all options presented at once, the drinks twice. -/
def curiousHistory : List Operation :=
  [.presentOptions "drink", .presentOptions "cup", .presentOptions "drink"]

/-- A respondent does much else in between, some of which is refused. -/
def busyHistory : List Operation :=
  [.next, .presentOptions "plate", .presentOptions "drink", .respond "drink" (.text "tea"),
   .respond "plate" (.text "flat"), .presentOptions "cup", .next, .setLanguage "tlh",
   .respond "drink" (.text "milk"), .previous, .presentOptions "drink", .submit]

/-- Both respondents see the drinks in the same order the first time, and again the second time. -/
theorem presentations_determined_drinkSurvey :
    ∃ i j, start drinkSurvey (Keystream.ofSeed 7) none = .ok i ∧
      start drinkSurvey (Keystream.ofSeed 7) (some "de") = .ok j ∧
      (presentations (i.trace drinkSurvey curiousHistory)).map Prod.fst =
        ["drink", "cup", "drink"] ∧
      (i.run drinkSurvey curiousHistory).order = (j.run drinkSurvey busyHistory).order ∧
      presentations (i.trace drinkSurvey curiousHistory) =
        presentations (j.trace drinkSurvey busyHistory) := by
  obtain ⟨i, j, hi, hj, hcurious, hbusy⟩ : ∃ i j,
      start drinkSurvey (Keystream.ofSeed 7) none = .ok i ∧
      start drinkSurvey (Keystream.ofSeed 7) (some "de") = .ok j ∧
      (presentations (i.trace drinkSurvey curiousHistory)).map Prod.fst =
        ["drink", "cup", "drink"] ∧
      (presentations (j.trace drinkSurvey busyHistory)).map Prod.fst =
        ["drink", "cup", "drink"] :=
    ⟨_, _, rfl, rfl, rfl, rfl⟩
  obtain ⟨horder, hsame, -⟩ := presentations_determined hi hj (hcurious.trans hbusy.symm)
  exact ⟨i, j, hi, hj, hcurious, horder, hsame⟩

end Questionnaire.Interview
