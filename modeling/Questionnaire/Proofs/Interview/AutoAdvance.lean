import Questionnaire.Proofs.Interview.Cursor

/-!
# Moving on by itself

Where respondents get on by giving a valid answer, an answer to the current question does what
answering it and asking for the next question does where they get on by asking
(`respond_autoAdvance`). The two go different ways about it. An answer that moves the cursor on
looks at the question answered and at those visible after it; asking for the next question finds
the current question anew and has it validated again.

They agree because an answer that leaves its question visible leaves the cursor on it
(`CursorOn.recorded`), so it is the same question that is validated and the same ones that follow.
If an answer hides its question, the cursor is on another one and does not move on by itself.
-/

namespace Questionnaire

/-- The survey with another way to get from one question to the next. -/
def Survey.withNavigation (survey : Survey) (navigation : Navigation) : Survey :=
  { survey with settings := { survey.settings with navigation } }

namespace Interview

variable {σ : Type} {survey : Survey} {i : Interview σ} {position : Nat} {q : Question}
  {answer : Answer}

/-- A state is coherent whichever way respondents get on. -/
theorem Coherent.withNavigation (h : Coherent survey i) (navigation : Navigation) :
    Coherent (survey.withNavigation navigation) i :=
  ⟨h.order_perm, h.visibility_eq, h.language⟩

/-- The cursor is on a question whichever way respondents get on, and wherever the interview has
come. -/
theorem CursorOn.withNavigation {before after : List Question}
    (h : CursorOn survey i position before q after) (navigation : Navigation) (stage : Stage) :
    CursorOn (survey.withNavigation navigation) { i with stage } position before q after :=
  ⟨h.presented_eq, h.position_eq, h.admitted⟩

/-! ## Asking for the next question -/

/-- The cursor is moved on from a current question that is answered as it asks if another visible
one follows. -/
theorem exists_next_eq_moved_iff (hstage : i.stage = .answering position)
    (hcurrent : i.current? survey = some q) :
    (∃ after place, i.next survey = .ok (after, .moved place)) ↔
      q.validate i.answers = .ok () ∧ position + 1 < (i.visible survey).length := by
  have hvalid : i.requireValid survey = .ok () ↔ q.validate i.answers = .ok () := by
    rw [requireValid_eq_ok_iff, hcurrent]
    simp
  constructor
  · rintro ⟨after, place, hnext⟩
    obtain ⟨found, hfound, hrequired, ⟨hmore, -, -⟩ | ⟨-, -, hmove⟩⟩ := next_eq_ok_iff.1 hnext
    · obtain rfl := Stage.answering.inj (hstage.symm.trans hfound)
      exact ⟨hvalid.1 hrequired, hmore⟩
    · cases hmove
  · rintro ⟨hq, hmore⟩
    exact ⟨_, _, next_eq_ok_iff.2 ⟨position, hstage, hvalid.2 hq, .inl ⟨hmore, rfl, rfl⟩⟩⟩

/-- If the cursor moves on when it is asked to, it moves by one place. -/
theorem step_next_of_moved [Source σ] (hstage : i.stage = .answering position)
    (h : ∃ after place, i.next survey = .ok (after, .moved place)) :
    (i.step survey .next).1 = { i with stage := .answering (position + 1) } := by
  obtain ⟨after, place, hnext⟩ := h
  obtain ⟨found, hfound, -, ⟨-, hafter, -⟩ | ⟨-, -, hmove⟩⟩ := next_eq_ok_iff.1 hnext
  · obtain rfl := Stage.answering.inj (hstage.symm.trans hfound)
    rw [step, hnext, settle, hafter]
  · cases hmove

/-- If the cursor does not move on when it is asked to, the interview stays as it was. -/
theorem step_next_of_not_moved [Source σ]
    (h : ¬∃ after place, i.next survey = .ok (after, .moved place)) :
    (i.step survey .next).1 = i := by
  rw [step]
  cases hnext : i.next survey with
  | error refusal => rfl
  | ok result =>
    obtain ⟨after, move⟩ := result
    obtain ⟨found, -, -, ⟨-, -, rfl⟩ | ⟨-, rfl, -⟩⟩ := next_eq_ok_iff.1 hnext
    · exact absurd ⟨after, _, hnext⟩ h
    · rfl

/-! ## Answers that move the cursor on -/

/-- An answer moves nothing on where respondents get on by asking. -/
theorem movesOn_eq_false_of_manual (h : survey.settings.navigation = .manual) :
    i.movesOn survey position q answer = false := by
  refine Bool.eq_false_iff.2 fun hmoves => ?_
  obtain ⟨hauto, -⟩ := movesOn_eq_true_iff.1 hmoves
  rw [h] at hauto
  cases hauto

/-- An answer that moves nothing on leaves the cursor at the place kept. -/
theorem afterAnswer_of_stays (h : i.movesOn survey position q answer = false) :
    i.afterAnswer survey position q answer =
      { i.recorded survey q answer with
        stage := .answering (i.keptPosition survey position q answer) } := by
  rw [afterAnswer, h, if_neg Bool.false_ne_true]

/-- An answer that moves the cursor on leaves it one place after the one kept. -/
theorem afterAnswer_of_moves (h : i.movesOn survey position q answer = true) :
    i.afterAnswer survey position q answer =
      { i.recorded survey q answer with
        stage := .answering (i.keptPosition survey position q answer + 1) } := by
  rw [afterAnswer, h, if_pos rfl]

/-- Where valid answers move the cursor on, an answer that leaves it on its question does so if it
is valid and another visible question follows. -/
theorem CursorOn.movesOn_autoAdvance_iff {before after : List Question}
    (h : CursorOn survey (i.recorded survey q answer) (i.keptPosition survey position q answer)
      before q after)
    (hcurrent : i.current? survey = some q) :
    i.movesOn (survey.withNavigation .autoAdvance) position q answer = true ↔
      q.validate (i.recorded survey q answer).answers = .ok () ∧
        i.keptPosition survey position q answer + 1 <
          ((i.recorded survey q answer).visible survey).length := by
  rw [movesOn_eq_true_iff]
  constructor
  · rintro ⟨-, -, hvalid, -, hmore⟩
    exact ⟨hvalid, hmore⟩
  · rintro ⟨hvalid, hmore⟩
    exact ⟨rfl, ⟨q, hcurrent, rfl⟩, hvalid, ⟨q, h.getElem?_visible, rfl⟩, hmore⟩

/-- An answer that hides its question moves nothing on. -/
theorem movesOn_eq_false_of_hidden (hi : Coherent survey i) (hids : survey.DistinctIds)
    (hq : q ∈ survey.questions) (hhidden : q ∉ (i.recorded survey q answer).visible survey) :
    i.movesOn survey position q answer = false := by
  refine Bool.eq_false_iff.2 fun hmoves => ?_
  obtain ⟨-, -, -, ⟨found, hfound, hid⟩, -⟩ := movesOn_eq_true_iff.1 hmoves
  have hvisible : found ∈ (i.recorded survey q answer).visible survey :=
    List.mem_of_getElem? hfound
  have hpresented : found ∈ (i.recorded survey q answer).presented survey :=
    mem_presented_of_mem_visible hvisible
  have hfound : found ∈ survey.questions := hi.mem_questions hpresented
  obtain rfl := List.inj_on_of_nodup_map hids hfound hq hid
  exact hhidden hvisible

/-! ## The two ways to get on -/

/-- An answer that leaves the current question visible moves the cursor on by itself as asking for
the next question after the answer does. -/
theorem CursorOn.afterAnswer_autoAdvance [Source σ] {before after : List Question}
    (h : CursorOn survey (i.recorded survey q answer) (i.keptPosition survey position q answer)
      before q after)
    (hcurrent : i.current? survey = some q) {manual : Interview σ}
    (hmanual : manual = i.afterAnswer (survey.withNavigation .manual) position q answer) :
    i.afterAnswer (survey.withNavigation .autoAdvance) position q answer =
        (manual.step (survey.withNavigation .manual) .next).1 ∧
      (i.movesOn (survey.withNavigation .autoAdvance) position q answer = true ↔
        ∃ after place,
          manual.next (survey.withNavigation .manual) = .ok (after, .moved place)) := by
  rw [afterAnswer_of_stays (movesOn_eq_false_of_manual rfl)] at hmanual
  have hstage : manual.stage = .answering (i.keptPosition survey position q answer) := by
    rw [hmanual]
    rfl
  -- The answer leaves the cursor on its question, so it is current for the respondent who asks.
  have hcursor : CursorOn (survey.withNavigation .manual) manual
      (i.keptPosition survey position q answer) before q after := by
    rw [hmanual]
    exact h.withNavigation .manual _
  have hnext := exists_next_eq_moved_iff hstage (hcursor.current?_eq hstage)
  have hsame : i.movesOn (survey.withNavigation .autoAdvance) position q answer = true ↔
      ∃ after place, manual.next (survey.withNavigation .manual) = .ok (after, .moved place) := by
    rw [hnext, h.movesOn_autoAdvance_iff hcurrent, hmanual]
    exact Iff.rfl
  refine ⟨?_, hsame⟩
  by_cases hmoves : i.movesOn (survey.withNavigation .autoAdvance) position q answer = true
  · rw [step_next_of_moved hstage (hsame.1 hmoves), afterAnswer_of_moves hmoves, hmanual]
    rfl
  · rw [step_next_of_not_moved (fun hmoved => hmoves (hsame.2 hmoved)),
      afterAnswer_of_stays (Bool.eq_false_iff.2 hmoves), hmanual]
    rfl

/-- In every state that a history of operations leads to, an answer to the current question is
recorded both where respondents get on by asking and where valid answers move the cursor on. If the
question stays visible, the latter leaves the interview that asking for the next question after the
former does, whether or not that is refused, and the cursor moved on by itself just if it moves
there. If the question is hidden, the two leave the same interview, and the cursor did not move on
by itself. -/
theorem respond_autoAdvance [Source σ] {draws : σ} {language : Option String}
    (hids : survey.DistinctIds) (hstart : start survey draws language = .ok i)
    (history : List Operation) (hcurrent : (i.run survey history).current? survey = some q)
    (answer : Answer) :
    ∃ manual manualOutcome auto autoOutcome,
      (i.run survey history).respond (survey.withNavigation .manual) q.id answer =
          .ok (manual, manualOutcome) ∧
        (i.run survey history).respond (survey.withNavigation .autoAdvance) q.id answer =
          .ok (auto, autoOutcome) ∧
        (q ∈ manual.visible survey →
          auto = (manual.step (survey.withNavigation .manual) .next).1 ∧
            (autoOutcome.advanced = true ↔ ∃ after place,
              manual.next (survey.withNavigation .manual) = .ok (after, .moved place))) ∧
        (q ∉ manual.visible survey → auto = manual ∧ autoOutcome.advanced = false) := by
  have hi := (Coherent.start hstart).run history
  generalize i.run survey history = j at hcurrent hi
  obtain ⟨position, hstage⟩ := exists_stage_of_current? hcurrent
  have hq : q ∈ survey.questions :=
    hi.mem_questions (mem_presented_of_mem_visible (mem_visible_of_current? hcurrent))
  -- The question is found by its id, so the answer is recorded either way.
  have hrecorded : ∀ navigation, j.respond (survey.withNavigation navigation) q.id answer =
      .ok (j.afterAnswer (survey.withNavigation navigation) position q answer,
        j.outcome (survey.withNavigation navigation) position q answer) := fun _ =>
    respond_eq_ok_iff.2 ⟨position, q, hstage, survey.question?_id hids hq, rfl, rfl⟩
  refine ⟨_, _, _, _, hrecorded .manual, hrecorded .autoAdvance, fun hvisible => ?_,
    fun hhidden => ?_⟩
  · obtain ⟨before, after, hcursor⟩ := exists_cursorOn hstage hcurrent
    have hkept := hcursor.recorded (hi.nodup_presented hids) hstage (List.mem_filter.1 hvisible).2
    exact hkept.afterAnswer_autoAdvance hcurrent rfl
  · have hstays : ∀ navigation,
        j.movesOn (survey.withNavigation navigation) position q answer = false := fun navigation =>
      movesOn_eq_false_of_hidden (hi.withNavigation navigation) hids hq hhidden
    refine ⟨?_, hstays .autoAdvance⟩
    rw [afterAnswer_of_stays (hstays .autoAdvance), afterAnswer_of_stays (hstays .manual)]
    rfl

/-- The answer `yes` to `pet` reveals `name`, and the cursor moves on to it by itself. -/
theorem respond_autoAdvance_petSurvey :
    petSurvey.DistinctIds ∧ ∃ i, start petSurvey (Keystream.ofSeed 0) none = .ok i ∧
      (i.run petSurvey [.respond "pet" (.text "no")]).current? petSurvey =
        petSurvey.question? "pet" ∧
      ∃ manual manualOutcome auto autoOutcome,
        (i.run petSurvey [.respond "pet" (.text "no")]).respond
            (petSurvey.withNavigation .manual) "pet" (.text "yes") = .ok (manual, manualOutcome) ∧
          (i.run petSurvey [.respond "pet" (.text "no")]).respond
            (petSurvey.withNavigation .autoAdvance) "pet" (.text "yes") = .ok (auto, autoOutcome) ∧
          auto = (manual.step (petSurvey.withNavigation .manual) .next).1 ∧
          auto.stage = .answering 1 ∧ autoOutcome.advanced = true := by
  have hids : petSurvey.DistinctIds := by decide
  have hstart : start petSurvey (Keystream.ofSeed 0) none = .ok _ := rfl
  obtain ⟨manual, manualOutcome, auto, autoOutcome, hmanual, hauto, hvisible, -⟩ :=
    respond_autoAdvance hids hstart [.respond "pet" (.text "no")] rfl (.text "yes")
  have hname : manual = _ := congrArg Prod.fst (Except.ok.inj (hmanual.symm.trans rfl))
  obtain ⟨hsame, hadvanced⟩ := hvisible (by rw [hname]; exact List.mem_cons_self)
  refine ⟨hids, _, hstart, rfl, manual, manualOutcome, auto, autoOutcome, hmanual, hauto, hsame,
    ?_, hadvanced.2 ?_⟩
  · rw [hsame, hname]
    rfl
  · rw [hname]
    exact ⟨_, 1, rfl⟩

end Interview

end Questionnaire
