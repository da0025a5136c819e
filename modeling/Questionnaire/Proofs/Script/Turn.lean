import Mathlib.Logic.Relation
import Questionnaire.Interview.Script
import Questionnaire.Proofs.Interview.Coherence

/-!
# What one turn of a script does

A turn of a script answers the current question or leaves it, and then moves the cursor on unless
the answer did. `TurnTaken` says what turns there are, with one constructor for each way through a
turn that does not fail, and `turn_taken` that every turn is one of them. A turn is made of
operations, so what a script reaches is what a history of operations reaches
(`Reaches.exists_run`), and what holds after every history holds all along a script.
-/

namespace Questionnaire.Script

variable {σ : Type}

open Interview

/-! ## Moving on -/

/-- Moving on leaves the interview that asking for the next question does. -/
theorem moveOn_fst [Source σ] (survey : Survey) (i : Interview σ) :
    (moveOn survey i).1 = (i.step survey .next).1 := by
  rw [moveOn, step]
  cases i.next survey with
  | error refusal => rfl
  | ok result =>
    obtain ⟨after, move⟩ := result
    cases move <;> rfl

/-- There is more to answer after moving on when the cursor moves. -/
theorem moveOn_eq_goesOn_iff {survey : Survey} {i after : Interview σ} :
    moveOn survey i = (after, .goesOn) ↔
      ∃ position, i.stage = .answering position ∧ i.requireValid survey = .ok () ∧
        position + 1 < (i.visible survey).length ∧
        after = { i with stage := .answering (position + 1) } := by
  have hnext : moveOn survey i = (after, .goesOn) ↔
      ∃ place, i.next survey = .ok (after, .moved place) := by
    rw [moveOn]
    cases i.next survey with
    | error refusal => simp
    | ok result =>
      obtain ⟨found, move⟩ := result
      cases move <;> simp
  rw [hnext]
  constructor
  · rintro ⟨place, h⟩
    obtain ⟨position, hstage, hvalid, ⟨hmore, hafter, -⟩ | ⟨-, -, hmove⟩⟩ := next_eq_ok_iff.1 h
    · exact ⟨position, hstage, hvalid, hmore, hafter⟩
    · cases hmove
  · rintro ⟨position, hstage, hvalid, hmore, hafter⟩
    exact ⟨position + 1, next_eq_ok_iff.2 ⟨position, hstage, hvalid, .inl ⟨hmore, hafter, rfl⟩⟩⟩

/-- Nothing is left to answer after moving on when the cursor is at the end. -/
theorem moveOn_eq_over_iff {survey : Survey} {i after : Interview σ} :
    moveOn survey i = (after, .over) ↔
      ∃ position, i.stage = .answering position ∧ i.requireValid survey = .ok () ∧
        (i.visible survey).length ≤ position + 1 ∧ after = i := by
  have hnext : moveOn survey i = (after, .over) ↔ i.next survey = .ok (after, .stayed) := by
    rw [moveOn]
    cases i.next survey with
    | error refusal => simp
    | ok result =>
      obtain ⟨found, move⟩ := result
      cases move <;> simp
  rw [hnext]
  constructor
  · intro h
    obtain ⟨position, hstage, hvalid, ⟨-, -, hmove⟩ | ⟨hlast, hafter, -⟩⟩ := next_eq_ok_iff.1 h
    · cases hmove
    · exact ⟨position, hstage, hvalid, hlast, hafter⟩
  · rintro ⟨position, hstage, hvalid, hlast, hafter⟩
    exact next_eq_ok_iff.2 ⟨position, hstage, hvalid, .inr ⟨hlast, hafter, rfl⟩⟩

/-- Moving on without a failure is from a question that is answered as it asks. -/
theorem requireValid_of_moveOn {survey : Survey} {i after : Interview σ} {turn : Turn}
    (h : moveOn survey i = (after, turn)) (hturn : ∀ failure, turn ≠ .failed failure) :
    i.requireValid survey = .ok () := by
  match turn, h with
  | .goesOn, h =>
    obtain ⟨position, -, hvalid, -⟩ := moveOn_eq_goesOn_iff.1 h
    exact hvalid
  | .over, h =>
    obtain ⟨position, -, hvalid, -⟩ := moveOn_eq_over_iff.1 h
    exact hvalid
  | .failed failure, _ => exact absurd rfl (hturn failure)

/-- Moving on leaves the answers. -/
theorem answers_of_moveOn [Source σ] {survey : Survey} {i after : Interview σ} {turn : Turn}
    (h : moveOn survey i = (after, turn)) : after.answers = i.answers := by
  have hstep := step_transition survey i .next
  have hafter : after = (i.step survey .next).1 := by rw [← moveOn_fst, h]
  rw [hafter]
  generalize i.step survey .next = result at hstep ⊢
  obtain ⟨after, reply⟩ := result
  cases hstep <;> rfl

/-! ## Turns -/

/-- What a turn can do: the interview after it, and what comes of it. -/
inductive TurnTaken (script : Script) (survey : Survey) (i : Interview σ) :
    Interview σ → Turn → Prop where
  /-- No question is current. -/
  | noQuestion (current : i.current? survey = none) : TurnTaken script survey i i .over
  /-- The current question is left as it is. -/
  | passed {q : Question} {after : Interview σ} {turn : Turn} (current : i.current? survey = some q)
    (left : q.isSectionBreak = true ∨ script.answers.get? q.id = none)
    (move : moveOn survey i = (after, turn)) : TurnTaken script survey i after turn
  /-- The current question is answered, and the cursor moves on by itself. -/
  | advanced {current q : Question} {position : Nat} {answer : Answer}
    (isCurrent : i.current? survey = some current) (stage : i.stage = .answering position)
    (question : survey.question? current.id = some q) (takesAnswer : current.isSectionBreak = false)
    (listed : script.answers.get? current.id = some answer)
    (valid : q.validate (i.recorded survey q answer).answers = .ok ())
    (moves : i.movesOn survey position q answer = true) :
    TurnTaken script survey i (i.afterAnswer survey position q answer) .goesOn
  /-- The current question is answered, and the cursor is moved on. -/
  | answered {current q : Question} {position : Nat} {answer : Answer} {after : Interview σ}
    {turn : Turn} (isCurrent : i.current? survey = some current)
    (stage : i.stage = .answering position) (question : survey.question? current.id = some q)
    (takesAnswer : current.isSectionBreak = false)
    (listed : script.answers.get? current.id = some answer)
    (valid : q.validate (i.recorded survey q answer).answers = .ok ())
    (stays : i.movesOn survey position q answer = false)
    (move : moveOn survey (i.afterAnswer survey position q answer) = (after, turn)) :
    TurnTaken script survey i after turn
  /-- The script does not get further. -/
  | failed (after : Interview σ) (failure : Failure) :
    TurnTaken script survey i after (.failed failure)

/-- Every turn is one of these. -/
theorem turn_taken (script : Script) (survey : Survey) (i : Interview σ) :
    TurnTaken script survey i (script.turn survey i).1 (script.turn survey i).2 := by
  rw [turn]
  cases hcurrent : i.current? survey with
  | none => exact .noQuestion hcurrent
  | some current =>
    by_cases hbreak : current.isSectionBreak = true
    · simp only [hbreak, if_true]
      exact .passed hcurrent (.inl hbreak) rfl
    · rw [Bool.not_eq_true] at hbreak
      simp only [hbreak, Bool.false_eq_true, if_false]
      cases hlisted : script.answers.get? current.id with
      | none =>
        dsimp only
        split
        next => exact .failed _ _
        next => exact .passed hcurrent (.inr hlisted) rfl
      | some answer =>
        dsimp only
        cases hrespond : i.respond survey current.id answer with
        | error refusal => exact .failed _ _
        | ok result =>
          obtain ⟨position, q, hstage, hq, hafter, hresult⟩ := respond_eq_ok_iff.1 hrespond
          -- The answer is recorded before it is validated, so the turn may fail with it kept.
          obtain ⟨after, outcome⟩ := result
          dsimp only at hafter hresult ⊢
          subst hafter hresult
          cases hvalid : q.validate (i.recorded survey q answer).answers with
          | error violation => simp only [Interview.outcome, hvalid]; exact .failed _ _
          | ok =>
            simp only [Interview.outcome, hvalid]
            split
            next hmoves => exact .advanced hcurrent hstage hq hbreak hlisted hvalid hmoves
            next hstays =>
              exact .answered hcurrent hstage hq hbreak hlisted hvalid (by simpa using hstays) rfl

/-- A turn that does not fail is made of operations. -/
theorem TurnTaken.exists_run [Source σ] {script : Script} {survey : Survey}
    {i after : Interview σ} {turn : Turn} (h : TurnTaken script survey i after turn)
    (hturn : ∀ failure, turn ≠ .failed failure) :
    ∃ history, after = i.run survey history := by
  cases h with
  | noQuestion => exact ⟨[], rfl⟩
  | passed current left move =>
    refine ⟨[.next], ?_⟩
    have hafter := moveOn_fst survey i
    rwa [move] at hafter
  | @advanced current q position answer isCurrent stage question =>
    exact ⟨[.respond current.id answer], (step_respond_fst stage question answer).symm⟩
  | @answered current q position answer _ _ isCurrent stage question _ _ _ _ move =>
    refine ⟨[.respond current.id answer, .next], ?_⟩
    have hafter := moveOn_fst survey (i.afterAnswer survey position q answer)
    rwa [move, ← step_respond_fst stage question answer] at hafter
  | failed after failure => exact absurd rfl (hturn failure)

/-! ## Walks -/

/-- A script leads from one interview to another by turns after which there is more to answer. -/
abbrev Reaches (script : Script) (survey : Survey) : Interview σ → Interview σ → Prop :=
  Relation.ReflTransGen fun i after => script.turn survey i = (after, .goesOn)

/-- Of two interviews on the way of a script, it leads from one to the other. -/
theorem Reaches.total {script : Script} {survey : Survey} {i j k : Interview σ}
    (hj : Reaches script survey i j) (hk : Reaches script survey i k) :
    Reaches script survey j k ∨ Reaches script survey k j := by
  refine Relation.ReflTransGen.total_of_right_unique (fun i a b ha hb => ?_) hj hk
  rw [ha] at hb
  exact congrArg Prod.fst hb

/-- What a script reaches, a history of operations reaches. -/
theorem Reaches.exists_run [Source σ] {script : Script} {survey : Survey} {i j : Interview σ}
    (h : Reaches script survey i j) : ∃ history, j = i.run survey history := by
  induction h with
  | refl => exact ⟨[], rfl⟩
  | @tail j after reached goesOn ih =>
    obtain ⟨history, rfl⟩ := ih
    have htaken := turn_taken script survey (i.run survey history)
    rw [goesOn] at htaken
    obtain ⟨more, rfl⟩ := htaken.exists_run (by simp)
    exact ⟨history ++ more, (run_append survey i history more).symm⟩

/-- What a script reaches presents the questions in the order of where it started. -/
theorem Reaches.presented_eq [Source σ] {script : Script} {survey : Survey} {i j : Interview σ}
    (h : Reaches script survey i j) : j.presented survey = i.presented survey := by
  obtain ⟨history, rfl⟩ := h.exists_run
  rw [presented, presented, order_run]

/-- What a script reaches is coherent if it started coherent. -/
theorem Reaches.coherent [Source σ] {script : Script} {survey : Survey} {i j : Interview σ}
    (h : Reaches script survey i j) (hi : Coherent survey i) : Coherent survey j := by
  obtain ⟨history, rfl⟩ := h.exists_run
  exact hi.run history

/-- A walk that ends without a failure ends with a turn after which nothing is left to answer. -/
theorem exists_reaches_of_walk? {script : Script} {survey : Survey} {turns : Nat}
    {i j last : Interview σ} (hj : Reaches script survey i j)
    (hwalk : script.walk? survey turns j = some (last, none)) :
    ∃ k, Reaches script survey i k ∧ script.turn survey k = (last, .over) := by
  induction turns generalizing j with
  | zero => cases hwalk
  | succ turns ih =>
    rw [walk?] at hwalk
    split at hwalk
    next hturn => exact ih (hj.tail hturn) hwalk
    next hturn =>
      cases hwalk
      exact ⟨j, hj, hturn⟩
    next => cases hwalk

/-- A script gets to a report when its walk ends without a failure and the survey is submitted
there. -/
theorem complete?_eq_some_ok_iff {script : Script} {survey : Survey} {i after : Interview σ}
    {report : Report} :
    script.complete? survey i = some (after, .ok report) ↔
      ∃ last, script.walk? survey (turnLimit survey) i = some (last, none) ∧
        last.submit survey = .ok (after, report) := by
  unfold complete?
  constructor
  · intro h
    split at h
    next => cases h
    next => cases h
    next last hwalk =>
      split at h
      next hsubmit =>
        cases h
        exact ⟨last, hwalk, hsubmit⟩
      next => cases h
  · rintro ⟨last, hwalk, hsubmit⟩
    rw [hwalk]
    simp only [hsubmit]

end Questionnaire.Script
