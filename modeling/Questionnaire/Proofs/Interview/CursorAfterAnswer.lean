import Questionnaire.Proofs.Interview.AutoAdvance

/-!
# Where the cursor goes on an answer

An answer, to whichever question, is recorded and visibility is resolved anew, so any number of
questions around the cursor may come and go. Where the cursor is then depends on the question it was
on (`cursor_after_answer`). As long as that question is visible the cursor stays on it, or moves on
by itself to the visible question right after it. If the question is hidden the cursor keeps its
place as far as there are visible questions, and does not move on.

Whether the question is visible decides between two forms of the state after the answer. If it is,
the cursor is on it before it moves on (`CursorOn.recorded`), and the rest is about the questions
that follow it. If it is not, the place is all that is kept (`keptPosition_of_hidden`).
-/

namespace Questionnaire.Interview

variable {σ : Type} {survey : Survey} {i : Interview σ} {position : ℕ}
  {before after : List Question} {q answered : Question} {answer : Answer}

/-- What is asked of the answer recorded last is asked of the answer itself. -/
theorem validate_recorded_self (survey : Survey) (i : Interview σ) (q : Question)
    (answer : Answer) :
    q.validate (i.recorded survey q answer).answers = q.check (some answer) := by
  rw [Question.validate, recorded, IdMap.get?_insert_self]

/-! ## The current question stays visible -/

namespace CursorOn

/-- Another visible question follows where the current one is not the last. -/
theorem getLast?_ne_iff (h : CursorOn survey i position before q after)
    (hids : ((i.presented survey).map Question.id).Nodup) :
    (i.visible survey).getLast? ≠ some q ↔ position + 1 < (i.visible survey).length := by
  have hnodup : (i.visible survey).Nodup := (List.Nodup.of_map _ hids).filter _
  rw [h.visible_eq] at hnodup ⊢
  rw [← h.position_eq]
  cases hafter : after.filter i.admits with
  | nil => simp
  | cons next rest =>
    rw [hafter] at hnodup
    -- The last one is among those that follow, of which none is the current one.
    have hlast : (before.filter i.admits ++ q :: next :: rest).getLast? =
        some ((next :: rest).getLast (List.cons_ne_nil _ _)) := by
      rw [List.getLast?_append_of_ne_nil _ (List.cons_ne_nil _ _), List.getLast?_cons_cons,
        List.getLast?_eq_some_getLast]
    have hne : (next :: rest).getLast (List.cons_ne_nil _ _) ≠ q := by
      intro heq
      have hmem : q ∈ next :: rest := heq ▸ List.getLast_mem _
      exact (List.nodup_cons.1 (List.nodup_append.1 hnodup).2.1).1 hmem
    refine iff_of_true ?_ (by simp)
    rw [hlast]
    exact fun heq => hne (Option.some.inj heq)

/-- One place after the current question stands the one that follows it. -/
theorem exists_next (h : CursorOn survey i position before q after)
    (hmore : position + 1 < (i.visible survey).length) :
    ∃ front next back, i.visible survey = front ++ q :: next :: back ∧
      (i.visible survey)[position + 1]? = some next := by
  rw [h.visible_eq] at hmore ⊢
  rw [← h.position_eq] at hmore ⊢
  cases hafter : after.filter i.admits with
  | nil => simp [hafter] at hmore
  | cons next rest => exact ⟨_, next, rest, rfl, by simp⟩

/-- Where the cursor is kept on the current question, it moves on by itself if the survey says so,
that question is the one answered, the answer is as it asks, and another visible question
follows. -/
theorem movesOn_iff
    (h : CursorOn survey (i.recorded survey answered answer)
      (i.keptPosition survey position answered answer) before q after)
    (hcurrent : i.current? survey = some q) :
    i.movesOn survey position answered answer = true ↔
      survey.settings.navigation = .autoAdvance ∧ q.id = answered.id ∧
        answered.check (some answer) = .ok () ∧
        i.keptPosition survey position answered answer + 1 <
          ((i.recorded survey answered answer).visible survey).length := by
  rw [movesOn_eq_true_iff, validate_recorded_self]
  constructor
  · rintro ⟨hauto, ⟨current, hfound, hid⟩, hvalid, -, hmore⟩
    obtain rfl := Option.some.inj (hcurrent.symm.trans hfound)
    exact ⟨hauto, hid, hvalid, hmore⟩
  · rintro ⟨hauto, hid, hvalid, hmore⟩
    exact ⟨hauto, ⟨q, hcurrent, hid⟩, hvalid, ⟨q, h.getElem?_visible, hid⟩, hmore⟩

end CursorOn

/-! ## The current question is hidden -/

/-- If an answer hides the current question, the place is kept as far as there are visible
questions. -/
theorem keptPosition_of_hidden (hcurrent : i.current? survey = some q)
    (hhidden : ∀ other ∈ (i.recorded survey answered answer).visible survey, other.id ≠ q.id) :
    i.keptPosition survey position answered answer =
      min position (((i.recorded survey answered answer).visible survey).length - 1) := by
  have hnone : ((i.recorded survey answered answer).visible survey).findIdx?
      (fun other => other.id == q.id) = none :=
    List.findIdx?_eq_none_iff.2 fun other hother => by simp [hhidden other hother]
  rw [keptPosition, hcurrent, cursorAmong, hnone, Option.getD_none]

/-- If an answer hides the current question, the cursor does not move on by itself, whichever
question is answered. -/
theorem movesOn_eq_false_of_current_hidden (hcurrent : i.current? survey = some q)
    (hhidden : ∀ other ∈ (i.recorded survey answered answer).visible survey, other.id ≠ q.id) :
    i.movesOn survey position answered answer = false := by
  refine Bool.eq_false_iff.2 fun hmoves => ?_
  obtain ⟨-, ⟨current, hfound, hid⟩, -, ⟨found, hvisible, hfoundId⟩, -⟩ :=
    movesOn_eq_true_iff.1 hmoves
  obtain rfl := Option.some.inj (hcurrent.symm.trans hfound)
  exact hhidden found (List.mem_of_getElem? hvisible) (hfoundId.trans hid.symm)

/-! ## Any answer -/

/-- Where the cursor is after an answer that was given while it was on a question at a place. -/
structure CursorFollows (survey : Survey) (q : Question) (position : ℕ) (id : String)
    (answer : Answer) (after : Interview σ) (outcome : Outcome) : Prop where
  /-- The cursor stays on its question while that is visible, unless it moves on by itself. -/
  stays : q ∈ after.visible survey → outcome.advanced = false → after.current? survey = some q
  /-- When it moves on by itself, it is on the visible question right after. -/
  moves_on : outcome.advanced = true → ∃ front next back,
    after.visible survey = front ++ q :: next :: back ∧ after.current? survey = some next
  /-- When its question is hidden it does not move on, and keeps its place as far as there are
  visible questions. -/
  keeps_place : q ∉ after.visible survey → outcome.advanced = false ∧
    after.position? = some (min position ((after.visible survey).length - 1))
  /-- It moves on by itself if the survey says so, it is its question that is answered, as that
  asks, and that is visible then and not the last. -/
  advanced_iff : outcome.advanced = true ↔
    survey.settings.navigation = .autoAdvance ∧ id = q.id ∧ q.check (some answer) = .ok () ∧
      q ∈ after.visible survey ∧ (after.visible survey).getLast? ≠ some q

/-- An answer that leaves the current question visible leaves the cursor on it or moves it on to the
next one. -/
theorem cursorFollows_of_visible (hi : Coherent survey i) (hids : survey.DistinctIds)
    (hstage : i.stage = .answering position) (hcurrent : i.current? survey = some q)
    {id : String} (hanswered : survey.question? id = some answered)
    (hvisible : q ∈ (i.recorded survey answered answer).visible survey) :
    CursorFollows survey q position id answer (i.afterAnswer survey position answered answer)
      (i.outcome survey position answered answer) := by
  obtain ⟨before, after, hcursor⟩ := exists_cursorOn hstage hcurrent
  have hnodup := hi.nodup_presented hids
  have hkept : CursorOn survey (i.recorded survey answered answer)
      (i.keptPosition survey position answered answer) before q after :=
    hcursor.recorded hnodup hstage (List.mem_filter.1 hvisible).2
  -- The cursor is on the question still, and `movesOn_iff` says when it goes on from there.
  have hmoves := hkept.movesOn_iff hcurrent
  refine ⟨fun _ hstays => ?_, fun hmoved => ?_, fun hhidden => absurd hvisible hhidden, ?_⟩
  · rw [afterAnswer_of_stays hstays]
    exact hkept.getElem?_visible
  · rw [afterAnswer_of_moves hmoved]
    exact hkept.exists_next (hmoves.1 hmoved).2.2.2
  · refine hmoves.trans ?_
    rw [← hkept.getLast?_ne_iff hnodup]
    constructor
    · rintro ⟨hauto, hid, hvalid, hlast⟩
      obtain rfl : id = q.id := (hid.trans (id_of_question?_eq_some hanswered)).symm
      obtain rfl := eq_of_current? hi hids hcurrent hanswered
      exact ⟨hauto, rfl, hvalid, hvisible, hlast⟩
    · rintro ⟨hauto, rfl, hvalid, -, hlast⟩
      obtain rfl := eq_of_current? hi hids hcurrent hanswered
      exact ⟨hauto, rfl, hvalid, hlast⟩

/-- An answer that hides the current question leaves the cursor at its place as far as there are
visible questions. -/
theorem cursorFollows_of_hidden (hi : Coherent survey i) (hids : survey.DistinctIds)
    (hcurrent : i.current? survey = some q) (id : String)
    (hhidden : q ∉ (i.recorded survey answered answer).visible survey) :
    CursorFollows survey q position id answer (i.afterAnswer survey position answered answer)
      (i.outcome survey position answered answer) := by
  -- No visible question has the id of the hidden one, as no two questions share an id.
  have hnone : ∀ other ∈ (i.recorded survey answered answer).visible survey,
      other.id ≠ q.id := by
    intro other hother hid
    have hmem : other ∈ survey.questions := hi.mem_questions (List.mem_filter.1 hother).1
    have hq : q ∈ survey.questions :=
      hi.mem_questions (mem_presented_of_mem_visible (mem_visible_of_current? hcurrent))
    obtain rfl := List.inj_on_of_nodup_map hids hmem hq hid
    exact hhidden hother
  have hstays : i.movesOn survey position answered answer = false :=
    movesOn_eq_false_of_current_hidden hcurrent hnone
  refine ⟨fun hvisible => absurd hvisible hhidden, fun hmoved => ?_, fun _ => ⟨hstays, ?_⟩, ?_⟩
  · exact absurd hmoved (Bool.eq_false_iff.1 hstays)
  · rw [afterAnswer_of_stays hstays]
    exact congrArg some (keptPosition_of_hidden hcurrent hnone)
  · exact iff_of_false (Bool.eq_false_iff.1 hstays) fun h => hhidden h.2.2.2.1

/-- In every state that a history of operations leads to, whichever question is answered: while the
current question is visible the cursor stays on it or moves on by itself to the visible one right
after it, and when it is hidden the cursor keeps its place as far as there are visible questions. It
moves on by itself just if the survey says so and the answer is to the current question, which
accepts it, stays visible and is not the last. -/
theorem cursor_after_answer [Source σ] {draws : σ} {language : Option String}
    (hids : survey.DistinctIds) (hstart : start survey draws language = .ok i)
    (history : List Operation) (hstage : (i.run survey history).stage = .answering position)
    (hcurrent : (i.run survey history).current? survey = some q) {id : String}
    {after : Interview σ} {outcome : Outcome}
    (hrespond : (i.run survey history).respond survey id answer = .ok (after, outcome)) :
    CursorFollows survey q position id answer after outcome := by
  have hi := (Coherent.start hstart).run history
  obtain ⟨place, answered, hplace, hanswered, rfl, rfl⟩ := respond_eq_ok_iff.1 hrespond
  obtain rfl := Stage.answering.inj (hstage.symm.trans hplace)
  by_cases hvisible :
      q ∈ ((i.run survey history).recorded survey answered answer).visible survey
  · exact cursorFollows_of_visible hi hids hstage hcurrent hanswered hvisible
  · exact cursorFollows_of_hidden hi hids hcurrent id hvisible

/-- A respondent who is asked for the name of a pet takes back having one. That hides the name, and
the cursor is at the first place again, the last one left. -/
theorem cursor_after_answer_petSurvey :
    petSurvey.DistinctIds ∧ ∃ i name after outcome,
      start petSurvey (Keystream.ofSeed 0) none = .ok i ∧
      (i.run petSurvey [.respond "pet" (.text "yes"), .next]).stage = .answering 1 ∧
      (i.run petSurvey [.respond "pet" (.text "yes"), .next]).current? petSurvey = some name ∧
      (i.run petSurvey [.respond "pet" (.text "yes"), .next]).respond petSurvey "pet"
        (.text "no") = .ok (after, outcome) ∧
      name ∉ after.visible petSurvey ∧ outcome.advanced = false ∧ after.position? = some 0 := by
  have hids : petSurvey.DistinctIds := by decide
  have hstart : start petSurvey (Keystream.ofSeed 0) none = .ok _ := rfl
  have hfollows := cursor_after_answer hids hstart [.respond "pet" (.text "yes"), .next] rfl rfl
    (show respond petSurvey _ "pet" (.text "no") = .ok (_, _) from rfl)
  have hhidden : petSurvey.questions[1] ∉ [petSurvey.questions[0]] := by decide
  exact ⟨hids, _, petSurvey.questions[1], _, _, hstart, rfl, rfl, rfl, hhidden,
    hfollows.keeps_place hhidden⟩

end Questionnaire.Interview
