import Mathlib.Tactic.Ring
import Questionnaire.Proofs.Interview.Cursor
import Questionnaire.Proofs.Script.Turn

/-!
# Scripts come to an end

A script has one answer for each question, but answers show and hide questions, so the cursor of its
walk may well go back: when an earlier question is revealed, or when the current one is hidden. What
it cannot do is go back without end. A turn after which there is more to answer either records an
answer of the script that was not recorded yet, which happens at most once for each question, or
leaves all answers as they are and moves the cursor on by one place (`TurnTaken.workLeft_lt`).

So the answers still owed, each worth a way through all questions, and the places after the cursor
make a measure that every turn lowers, and a walk ends within one turn more than its measure
(`exists_walk?_eq_some`). From whatever state a history of operations leads to, this is at most the
square of one more than the number of questions (`walk_ends`).
-/

namespace Questionnaire.Script

variable {σ : Type}

open Interview

/-! ## Answers that are owed -/

/-- The script has an answer for a question that is not the one recorded for it. -/
def owes (script : Script) (answers : Answers) (q : Question) : Bool :=
  (script.answers.get? q.id).any fun answer => decide (answers.get? q.id ≠ some answer)

/-- The questions of a survey for which the script has an answer that is not recorded. -/
def owed (script : Script) (survey : Survey) (answers : Answers) : List Question :=
  survey.questions.filter (script.owes answers)

/-- What is listed in the script for a question is owed unless it is recorded. -/
theorem owes_eq_true_iff {script : Script} {answers : Answers} {q : Question} {answer : Answer}
    (hlisted : script.answers.get? q.id = some answer) :
    script.owes answers q = true ↔ answers.get? q.id ≠ some answer := by
  simp [owes, hlisted]

/-- Nothing is owed after an answer of the script that was not owed before it, and the answer to the
question itself is not owed any more. -/
theorem owes_insert {script : Script} {answers : Answers} {q other : Question} {answer : Answer}
    (hlisted : script.answers.get? q.id = some answer)
    (h : script.owes (answers.insert q.id answer) other = true) :
    script.owes answers other = true ∧ other.id ≠ q.id := by
  have hne : other.id ≠ q.id := by
    intro hid
    rw [← hid] at hlisted
    rw [owes_eq_true_iff hlisted, hid, IdMap.get?_insert_self] at h
    exact h rfl
  refine ⟨?_, hne⟩
  rwa [owes, IdMap.get?_insert_of_ne _ hne] at h

/-- An answer of the script that was owed is one less to record. -/
theorem length_owed_insert_lt {script : Script} {survey : Survey} {answers : Answers} {q : Question}
    {answer : Answer} (hq : q ∈ survey.questions)
    (hlisted : script.answers.get? q.id = some answer) (howes : script.owes answers q = true) :
    (script.owed survey (answers.insert q.id answer)).length <
      (script.owed survey answers).length := by
  have hafter : script.owed survey (answers.insert q.id answer) =
      (script.owed survey answers).filter (script.owes (answers.insert q.id answer)) := by
    rw [owed, owed, List.filter_filter]
    refine List.filter_congr fun other _ => ?_
    rw [Bool.eq_iff_iff, Bool.and_eq_true]
    exact ⟨fun h => ⟨h, (owes_insert hlisted h).1⟩, And.left⟩
  rw [hafter, List.length_filter_lt_length_iff_exists]
  exact ⟨q, List.mem_filter.2 ⟨hq, howes⟩, fun h => (owes_insert hlisted h).2 rfl⟩

/-- An answer that is recorded already changes nothing when it is recorded again. -/
theorem recorded_eq_self {survey : Survey} {i : Interview σ} (hi : Coherent survey i) {q : Question}
    {answer : Answer} (h : i.answers.get? q.id = some answer) : i.recorded survey q answer = i := by
  have hanswers : i.answers.insert q.id answer = i.answers := by
    refine IdMap.ext_get? fun id => ?_
    rw [IdMap.get?_insert]
    split
    next hid => rw [← h, hid]
    next => rfl
  rw [recorded, hanswers, ← hi.visibility_eq]

/-! ## The measure -/

/-- How much a walk has before it: a way through all questions for each answer that is owed, and the
places from the cursor on. -/
def workLeft (script : Script) (survey : Survey) (i : Interview σ) : Nat :=
  (script.owed survey i.answers).length * survey.questions.length +
    (survey.questions.length - i.position?.getD 0)

/-- There are no more answers owed than questions. -/
theorem workLeft_le (script : Script) (survey : Survey) (i : Interview σ) :
    script.workLeft survey i ≤
      survey.questions.length * survey.questions.length + survey.questions.length :=
  Nat.add_le_add (Nat.mul_le_mul_right _ (List.length_filter_le _ _)) (Nat.sub_le _ _)

/-- What a walk has before it at a place. -/
theorem workLeft_eq {script : Script} {survey : Survey} {i : Interview σ} {position : Nat}
    (hstage : i.stage = .answering position) :
    script.workLeft survey i = (script.owed survey i.answers).length * survey.questions.length +
      (survey.questions.length - position) := by
  rw [workLeft, position?, hstage, Option.getD_some]

/-- The cursor is at a place below the number of questions. -/
theorem position_lt_length {survey : Survey} {i : Interview σ} {position : Nat} {q : Question}
    (hi : Coherent survey i) (hstage : i.stage = .answering position)
    (hcurrent : i.current? survey = some q) : position < survey.questions.length := by
  obtain ⟨before, after, hcursor⟩ := exists_cursorOn hstage hcurrent
  calc position < (i.visible survey).length := hcursor.position_lt
    _ ≤ (i.presented survey).length := List.length_filter_le _ _
    _ = survey.questions.length := hi.presented_perm.length_eq

section Turns

variable {script : Script} {survey : Survey} {i after : Interview σ} {position : Nat} {q : Question}
  {answer : Answer}

/-- Moving on without a new answer takes one place off. -/
theorem workLeft_lt_of_place (hstage : i.stage = .answering position)
    (hafter : after.stage = .answering (position + 1)) (hanswers : after.answers = i.answers)
    (hlt : position < survey.questions.length) :
    script.workLeft survey after < script.workLeft survey i := by
  rw [workLeft_eq hstage, workLeft_eq hafter, hanswers]
  omega

/-- An answer that was owed takes a way through all questions off, wherever the cursor is then. -/
theorem workLeft_lt_of_owed (hstage : i.stage = .answering position)
    (hafter : after.answers = i.answers.insert q.id answer) (hq : q ∈ survey.questions)
    (hlisted : script.answers.get? q.id = some answer) (howes : script.owes i.answers q = true)
    (hlt : position < survey.questions.length) :
    script.workLeft survey after < script.workLeft survey i := by
  have hless := length_owed_insert_lt hq hlisted howes
  rw [← hafter] at hless
  rw [workLeft_eq hstage]
  calc script.workLeft survey after
      ≤ (script.owed survey after.answers).length * survey.questions.length +
          survey.questions.length := Nat.add_le_add_left (Nat.sub_le _ _) _
    _ = ((script.owed survey after.answers).length + 1) * survey.questions.length := by ring
    _ ≤ (script.owed survey i.answers).length * survey.questions.length :=
        Nat.mul_le_mul_right _ hless
    _ < _ := by omega

/-- An answer of the script to the current question, with the cursor moved on from the place kept,
leaves less to do. -/
theorem workLeft_lt_of_answered (hi : Coherent survey i) (hids : survey.DistinctIds)
    (hstage : i.stage = .answering position) (hcurrent : i.current? survey = some q)
    (hlisted : script.answers.get? q.id = some answer)
    (hanswers : after.answers = i.answers.insert q.id answer)
    (hafter : after.stage = .answering (i.keptPosition survey position q answer + 1)) :
    script.workLeft survey after < script.workLeft survey i := by
  have hlt := position_lt_length hi hstage hcurrent
  by_cases howes : script.owes i.answers q = true
  · have hq : q ∈ survey.questions :=
      hi.mem_questions (mem_presented_of_mem_visible (mem_visible_of_current? hcurrent))
    exact workLeft_lt_of_owed hstage hanswers hq hlisted howes hlt
  · -- The answer is recorded already, so the cursor stays on the question before it moves on.
    have hrecorded : i.recorded survey q answer = i := by
      rw [owes_eq_true_iff hlisted, ne_eq, not_not] at howes
      exact recorded_eq_self hi howes
    obtain ⟨before, after, hcursor⟩ := exists_cursorOn hstage hcurrent
    have hkept : i.keptPosition survey position q answer = position := by
      rw [keptPosition, hrecorded, hcurrent, hcursor.cursorAmong_eq (hi.nodup_presented hids)]
    rw [hkept] at hafter
    refine workLeft_lt_of_place hstage hafter ?_ hlt
    rw [hanswers]
    exact congrArg Interview.answers hrecorded

/-- A turn after which there is more to answer leaves less to do. -/
theorem TurnTaken.workLeft_lt (h : TurnTaken script survey i after .goesOn)
    (hi : Coherent survey i) (hids : survey.DistinctIds) :
    script.workLeft survey after < script.workLeft survey i := by
  cases h with
  | passed current _ move =>
    obtain ⟨position, hstage, -, -, rfl⟩ := moveOn_eq_goesOn_iff.1 move
    exact workLeft_lt_of_place hstage rfl rfl (position_lt_length hi hstage current)
  | advanced isCurrent stage question _ listed _ moves =>
    obtain rfl := eq_of_current? hi hids isCurrent question
    refine workLeft_lt_of_answered hi hids stage isCurrent listed rfl ?_
    rw [afterAnswer, if_pos moves]
  | answered isCurrent stage question _ listed _ stays move =>
    obtain rfl := eq_of_current? hi hids isCurrent question
    obtain ⟨place, hplace, -, -, rfl⟩ := moveOn_eq_goesOn_iff.1 move
    refine workLeft_lt_of_answered hi hids stage isCurrent listed rfl ?_
    rw [afterAnswer, stays, if_neg Bool.false_ne_true] at hplace
    rw [Stage.answering.inj hplace]

end Turns

/-! ## Walks -/

/-- A walk that has come to its end does not use the turns that are left. -/
theorem walk?_eq_some_of_le {script : Script} {survey : Survey} {turns more : Nat} {i : Interview σ}
    {ending : Interview σ × Option Failure} (h : script.walk? survey turns i = some ending)
    (hle : turns ≤ more) : script.walk? survey more i = some ending := by
  induction turns generalizing i more with
  | zero => cases h
  | succ turns ih =>
    obtain ⟨more, rfl⟩ : ∃ n, more = n + 1 := ⟨more - 1, by omega⟩
    rw [walk?] at h ⊢
    split
    next hturn =>
      rw [hturn] at h
      exact ih h (Nat.le_of_succ_le_succ hle)
    next hturn => rwa [hturn] at h
    next hturn => rwa [hturn] at h

/-- A walk that is given more turns than it has work before it comes to an end. -/
theorem exists_walk?_eq_some [Source σ] {script : Script} {survey : Survey}
    (hids : survey.DistinctIds) {turns : Nat} {i : Interview σ} (hi : Coherent survey i)
    (hturns : script.workLeft survey i < turns) :
    ∃ ending, script.walk? survey turns i = some ending := by
  induction turns generalizing i with
  | zero => exact absurd hturns (Nat.not_lt_zero _)
  | succ turns ih =>
    rw [walk?]
    split
    next after hturn =>
      have htaken := turn_taken script survey i
      rw [hturn] at htaken
      obtain ⟨history, rfl⟩ := htaken.exists_run (by simp)
      have hless := htaken.workLeft_lt hi hids
      exact ih (hi.run history) (Nat.lt_of_lt_of_le hless (Nat.le_of_lt_succ hturns))
    next => exact ⟨_, rfl⟩
    next => exact ⟨_, rfl⟩

/-- A script completes an interview, with a report or with a failure, when its walk ends within the
turns that it is given. -/
theorem exists_complete?_eq_some {script : Script} {survey : Survey} {i : Interview σ}
    {ending : Interview σ × Option Failure}
    (h : script.walk? survey (turnLimit survey) i = some ending) :
    ∃ after result, script.complete? survey i = some (after, result) := by
  rw [complete?, h]
  obtain ⟨last, _ | failure⟩ := ending
  · dsimp only
    split
    next => exact ⟨_, _, rfl⟩
    next => exact ⟨_, _, rfl⟩
  · exact ⟨_, _, rfl⟩

/-- From every state that a history of operations leads to, the walk of a script comes to an end
within as many turns as the square of one more than the number of questions, however many more it is
given, and the script ends with a report or a failure. -/
theorem walk_ends [Source σ] {survey : Survey} {draws : σ} {language : Option String}
    {i : Interview σ} (hids : survey.DistinctIds) (hstart : start survey draws language = .ok i)
    (history : List Operation) (script : Script) :
    (∃ ending, ∀ turns, (survey.questions.length + 1) ^ 2 ≤ turns →
        script.walk? survey turns (i.run survey history) = some ending) ∧
      ∃ after result, script.complete? survey (i.run survey history) = some (after, result) := by
  have hi := (Coherent.start hstart).run history
  generalize i.run survey history = j at hi
  have hwork : script.workLeft survey j < (survey.questions.length + 1) ^ 2 := by
    have hle := script.workLeft_le survey j
    calc script.workLeft survey j
        ≤ survey.questions.length * survey.questions.length + survey.questions.length := hle
      _ < survey.questions.length * survey.questions.length + survey.questions.length +
            (survey.questions.length + 1) := by omega
      _ = (survey.questions.length + 1) ^ 2 := by ring
  obtain ⟨ending, hending⟩ := exists_walk?_eq_some hids hi hwork
  have hlimit : (survey.questions.length + 1) ^ 2 ≤ turnLimit survey := by
    rw [turnLimit, sq]
    exact Nat.le_succ _
  exact ⟨⟨ending, fun _ => walk?_eq_some_of_le hending⟩,
    exists_complete?_eq_some (walk?_eq_some_of_le hending hlimit)⟩

/-- Either end of a seesaw that goes down hides the other, and the right one itself as well. -/
def seesawSurvey : Survey where
  id := "seesaw"
  settings := { navigation := .autoAdvance }
  questions :=
    [{ id := "left", body := .openText {}, rules := [⟨"right", .hide, .equals, .text "down"⟩] },
     { id := "right", body := .openText {},
       rules := [⟨"left", .hide, .equals, .text "down"⟩, ⟨"right", .hide, .equals, .text "down"⟩] }]

/-- Both ends are to go down. -/
def seesawScript : Script :=
  (empty.withAnswer "left" (.text "down")).withAnswer "right" (.text "down")

/-- The right end has been up already; nine turns are enough, and there is a report. -/
theorem walk_ends_seesawSurvey :
    seesawSurvey.DistinctIds ∧ ∃ i, start seesawSurvey (Keystream.ofSeed 0) none = .ok i ∧
      (∃ ending, ∀ turns, 9 ≤ turns →
        seesawScript.walk? seesawSurvey turns
          (i.run seesawSurvey [.respond "right" (.text "up")]) = some ending) ∧
      ∃ after report, seesawScript.complete? seesawSurvey
        (i.run seesawSurvey [.respond "right" (.text "up")]) = some (after, .ok report) := by
  have hids : seesawSurvey.DistinctIds := by decide
  have hstart : start seesawSurvey (Keystream.ofSeed 0) none = .ok _ := rfl
  have hends := walk_ends hids hstart [.respond "right" (.text "up")] seesawScript
  exact ⟨hids, _, hstart, hends.1, _, _, rfl⟩

end Questionnaire.Script
