import Questionnaire.Interview.InPlace
import Questionnaire.Proofs.Interview.Coherence

/-!
# A refused operation changes nothing

An operation in place that is refused leaves the interview in whatever state it has come to. Each
operation has its checks before its first assignment, and that is why none leaves anything half
done: a check leaves the interview as it is, whether it refuses or not (`check_bind`), and behind
the last check nothing refuses any more. So each operation in place leaves what the operation of the
same name gives (`perform_run`), and a refused one leaves the interview as it was, in all its parts
(`unchanged_of_refused`).
-/

namespace Questionnaire.Interview

variable {σ α β : Type} {survey : Survey} {i : Interview σ}

namespace InPlace

/-- What is left where an operation gave a result or was refused: the interview after it, or the
interview as it was. -/
def ending (i : Interview σ) :
    Except Refusal (Interview σ × α) → EStateM.Result Refusal (Interview σ) α
  | .ok (after, result) => .ok result after
  | .error refusal => .error refusal i

/-- A check that finds what it looks for leaves the interview to the rest of the program. -/
theorem run_check_bind_of_ok {f : Interview σ → Except Refusal α} {rest : α → InPlace σ β} {a : α}
    (h : f i = .ok a) : (check f >>= rest).run i = (rest a).run i := by
  rw [EStateM.run_bind, check, EStateM.run_bind, EStateM.run_get]
  simp only [h]
  rfl

/-- A check that refuses ends the program and leaves the interview as it is. -/
theorem run_check_bind_of_error {f : Interview σ → Except Refusal α} {rest : α → InPlace σ β}
    {refusal : Refusal} (h : f i = .error refusal) :
    (check f >>= rest).run i = .error refusal i := by
  rw [EStateM.run_bind, check, EStateM.run_bind, EStateM.run_get]
  simp only [h]
  rfl

/-- A program that starts with a check leaves what an operation with the same check gives, if the
rest does. -/
theorem check_bind {f : Interview σ → Except Refusal α} {rest : α → InPlace σ β}
    {g : α → Except Refusal (Interview σ × β)}
    (h : ∀ a, f i = .ok a → (rest a).run i = ending i (g a)) :
    (check f >>= rest).run i = ending i (f i >>= g) := by
  cases hf : f i with
  | ok a => rw [run_check_bind_of_ok hf, h a hf, ok_bind]
  | error refusal =>
    rw [run_check_bind_of_error hf]
    rfl

/-- Answering in place leaves what answering gives. -/
theorem respond_run (id : String) (answer : Answer) :
    (respond survey id answer).run i = ending i (i.respond survey id answer) :=
  check_bind fun _ _ => check_bind fun _ _ => rfl

/-- Moving on in place leaves what moving on gives. -/
theorem next_run : (next survey).run i = ending i (i.next survey) := by
  refine check_bind fun position _ => check_bind fun _ _ => ?_
  rw [EStateM.run_bind, EStateM.run_get]
  by_cases hend : (i.visible survey).length ≤ position + 1
  · simp only [if_pos hend]
    rfl
  · simp only [if_neg hend]
    rfl

/-- Moving back in place leaves what moving back gives. -/
theorem previous_run : previous.run i = ending i i.previous := by
  refine check_bind fun position _ => ?_
  cases position with
  | zero => rfl
  | succ position => rfl

/-- Submitting in place leaves what submitting gives. -/
theorem submit_run : (submit survey).run i = ending i (i.submit survey) :=
  check_bind fun _ _ => check_bind fun _ _ => rfl

/-- Changing the language in place leaves what changing it gives. -/
theorem setLanguage_run (language : String) :
    (setLanguage survey language).run i =
      ending i ((i.setLanguage survey language).map (·, ())) := by
  have hgiven : (i.setLanguage survey language).map (·, ()) = i.requireAnswering >>= fun _ =>
      if survey.settings.supportsLanguage language = true then
        .ok ({ i with locale := { i.locale with active := language } }, ())
      else .error (.unsupportedLanguage language) := by
    rw [Interview.setLanguage]
    cases i.requireAnswering with
    | error => rfl
    | ok =>
      rw [ok_bind, ok_bind]
      split
      next => rfl
      next => rfl
  rw [hgiven]
  refine check_bind fun _ _ => ?_
  by_cases hsupported : survey.settings.supportsLanguage language = true
  · simp only [hsupported]
    rfl
  · simp only [hsupported]
    rfl

/-- Presenting options in place leaves what presenting them gives. -/
theorem presentOptions_run [Source σ] (id : String) :
    (presentOptions survey id).run i = ending i (i.presentOptions survey id) :=
  check_bind fun _ _ => rfl

/-- What is left by an operation of a history: the interview after it with the reply, or with the
refusal. -/
def endingOfStep : Interview σ × Reply → EStateM.Result Refusal (Interview σ) Reply
  | (after, .refused refusal) => .error refusal after
  | (after, reply) => .ok reply after

/-- A result passed on as a reply leaves what the operation of a history leaves. -/
theorem map_run {p : InPlace σ α} {result : Except Refusal (Interview σ × α)}
    (h : p.run i = ending i result) {reply : α → Reply}
    (hreply : ∀ (after : Interview σ) a, endingOfStep (after, reply a) = .ok (reply a) after) :
    (reply <$> p).run i = endingOfStep (i.settle reply result) := by
  rw [map_eq_pure_bind, EStateM.run_bind, h]
  cases result with
  | error refusal => rfl
  | ok result => exact (hreply result.1 result.2).symm

end InPlace

open InPlace

/-- Every operation in place leaves what the same operation of a history leaves, and replies what it
replies. -/
theorem perform_run [Source σ] (operation : Operation) :
    (perform survey operation).run i = endingOfStep (i.step survey operation) := by
  cases operation with
  | respond id answer => exact map_run (respond_run id answer) fun _ _ => rfl
  | next => exact map_run next_run fun _ _ => rfl
  | previous => exact map_run previous_run fun _ _ => rfl
  | submit => exact map_run submit_run fun _ _ => rfl
  | setLanguage language => exact map_run (setLanguage_run language) fun _ _ => rfl
  | presentOptions id => exact map_run (presentOptions_run id) fun _ _ => rfl

/-- A refusal is left by an operation that is refused. -/
theorem endingOfStep_eq_error_iff {given : Interview σ × Reply} {refusal : Refusal}
    {after : Interview σ} :
    endingOfStep given = .error refusal after ↔ given = (after, .refused refusal) := by
  obtain ⟨state, reply⟩ := given
  cases reply with
  | refused other => simp [endingOfStep, and_comm]
  | _ => simp [endingOfStep]

/-- In whatever state an interview is, an operation in place that is refused leaves the order of
presentation, the answers, the visibility, the stage with the place of the cursor or the report, the
languages and the source of further draws as they were. -/
theorem unchanged_of_refused [Source σ] {operation : Operation} {refusal : Refusal}
    {after : Interview σ} (h : (perform survey operation).run i = .error refusal after) :
    after = i ∧ i.step survey operation = (i, .refused refusal) := by
  rw [perform_run, endingOfStep_eq_error_iff] at h
  have htransition := step_transition survey i operation
  rw [h] at htransition
  cases htransition
  exact ⟨rfl, h⟩

/-- The respondent has a pet and does not name it. -/
def namelessHistory : List Operation :=
  [.respond "pet" (.text "yes"), .next]

/-- Moving on in place is refused for want of a name and leaves the cursor where it was. -/
theorem unchanged_of_refused_petSurvey :
    ∃ i, start petSurvey (Keystream.ofSeed 0) none = .ok i ∧
      (i.run petSurvey namelessHistory).stage = .answering 1 ∧
      (perform petSurvey .next).run (i.run petSurvey namelessHistory) =
        .error (.invalid "name" .required) (i.run petSurvey namelessHistory) ∧
      (i.run petSurvey namelessHistory).step petSurvey .next =
        (i.run petSurvey namelessHistory, .refused (.invalid "name" .required)) := by
  obtain ⟨i, hstart, hstage, hrefused⟩ : ∃ i, start petSurvey (Keystream.ofSeed 0) none = .ok i ∧
      (i.run petSurvey namelessHistory).stage = .answering 1 ∧
      (perform petSurvey .next).run (i.run petSurvey namelessHistory) =
        .error (.invalid "name" .required) (i.run petSurvey namelessHistory) := ⟨_, rfl, rfl, rfl⟩
  obtain ⟨-, hstep⟩ := unchanged_of_refused hrefused
  exact ⟨i, hstart, hstage, hrefused, hstep⟩

end Questionnaire.Interview
