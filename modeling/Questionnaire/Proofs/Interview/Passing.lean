import Questionnaire.Proofs.Interview.AutoAdvance
import Questionnaire.Proofs.Interview.Submission
import Questionnaire.Proofs.Script.Completeness

/-!
# Questions passed

The cursor may be anywhere after an answer, since any number of questions around it can appear and
disappear. But a question that stays visible is passed in one way only: it is answered as it asks,
and the cursor goes to the visible question right after it (`no_invalid_passed`). An answer to
another question never moves the cursor past the current one, nor does anything that is refused.

Places among the visible questions tell it all. After any operation, a question that was current and
is still visible stands at some place, and the cursor is up to there, or one place further if the
question is answered as it asks (`Transition.exists_place`). Which of two questions comes first in
the order of presentation can be read off their places, as visible questions stand in that order
(`Precedes.filter`, `Precedes.lt`).
-/

namespace Questionnaire

/-! ## Before and after -/

namespace Script.Precedes

variable {questions : List Question} {p q : Question}

/-- Questions that are kept stand as they stood. -/
theorem filter (h : Precedes questions p q) {keep : Question → Bool} (hp : keep p = true)
    (hq : keep q = true) : Precedes (questions.filter keep) p q := by
  obtain ⟨before, after, rfl, hmem⟩ := h
  refine ⟨before.filter keep, after.filter keep, ?_, List.mem_filter.2 ⟨hmem, hp⟩⟩
  rw [List.filter_append, List.filter_cons_of_pos hq]

/-- Where no question is listed twice, what stands before has a smaller place. -/
theorem lt (h : Precedes questions p q) (hnodup : questions.Nodup) {m n : ℕ}
    (hm : questions[m]? = some p) (hn : questions[n]? = some q) : m < n := by
  obtain ⟨before, after, rfl, hmem⟩ := h
  obtain ⟨k, hk, hkp⟩ := List.getElem_of_mem hmem
  have hfirst : (before ++ q :: after)[k]? = some p := by
    rw [List.getElem?_append_left hk, List.getElem?_eq_getElem hk, hkp]
  have hsecond : (before ++ q :: after)[before.length]? = some q := by simp
  have hlength : before.length < (before ++ q :: after).length := by simp
  obtain rfl : k = m :=
    (List.getElem?_inj (Nat.lt_trans hk hlength) hnodup).1 (hfirst.trans hm.symm)
  obtain rfl : before.length = n :=
    (List.getElem?_inj hlength hnodup).1 (hsecond.trans hn.symm)
  exact hk

end Script.Precedes

namespace Interview

open Script (Precedes)

/-! ## What an operation does to the cursor -/

variable {σ : Type} {survey : Survey} {i after : Interview σ} {position : ℕ} {q : Question}

/-- While the survey is being answered, the current question is the one at the cursor. -/
theorem current?_eq_some_iff (hstage : i.stage = .answering position) :
    i.current? survey = some q ↔ (i.visible survey)[position]? = some q := by
  rw [current?, position?, hstage, Option.bind_some]

/-- After an answer to any question, a question that was current and is still visible stands at the
place kept, and the cursor is there, or one place further if the question is answered as it
asks. -/
theorem exists_place_afterAnswer (hi : Coherent survey i) (hids : survey.DistinctIds)
    (hstage : i.stage = .answering position) (hcurrent : i.current? survey = some q)
    {answered : Question} (hanswered : survey.question? answered.id = some answered)
    (answer : Answer) (hvisible : (i.recorded survey answered answer).admits q = true) :
    ((i.recorded survey answered answer).visible survey)[
        i.keptPosition survey position answered answer]? = some q ∧
      (i.movesOn survey position answered answer = true →
        q.validate (i.recorded survey answered answer).answers = .ok ()) := by
  obtain ⟨before, after, hcursor⟩ := exists_cursorOn hstage hcurrent
  have hkept := hcursor.recorded (hi.nodup_presented hids) hstage hvisible
  refine ⟨hkept.getElem?_visible, fun hmoves => ?_⟩
  -- The cursor moves on by itself only if it is the current question that was answered.
  obtain ⟨-, ⟨other, hother, hid⟩, hvalid, -, -⟩ := movesOn_eq_true_iff.1 hmoves
  rw [← hid] at hanswered
  obtain rfl : q = other := Option.some.inj (hcurrent.symm.trans hother)
  obtain rfl := eq_of_current? hi hids hcurrent hanswered
  exact hvalid

/-- After an operation, a question that was current and is still visible stands at some place, and
the cursor is not further than there, or one place further if the question is answered as it
asks. -/
theorem Transition.exists_place [Source σ] {operation : Operation} {reply : Reply}
    (h : Transition survey i operation after reply) (hi : Coherent survey i)
    (hids : survey.DistinctIds) (hcurrent : i.current? survey = some q)
    (hvisible : q ∈ after.visible survey) {place : ℕ} (hplace : after.stage = .answering place) :
    ∃ kept, (after.visible survey)[kept]? = some q ∧
      (place ≤ kept ∨ place = kept + 1 ∧ q.validate after.answers = .ok ()) := by
  cases h with
  | answered answer stage question =>
    obtain ⟨hkept, hvalid⟩ := exists_place_afterAnswer hi hids stage hcurrent
      (id_of_question?_eq_some question ▸ question) answer (List.mem_filter.1 hvisible).2
    refine ⟨_, hkept, ?_⟩
    obtain rfl := Stage.answering.inj hplace
    split
    next hmoves => exact .inr ⟨rfl, hvalid hmoves⟩
    next => exact .inl (Nat.le_refl _)
  | movedOn stage valid more =>
    obtain rfl := Stage.answering.inj hplace
    exact ⟨_, (current?_eq_some_iff stage).1 hcurrent,
      .inr ⟨rfl, requireValid_eq_ok_iff.1 valid q hcurrent⟩⟩
  | movedBack stage =>
    obtain rfl := Stage.answering.inj hplace
    exact ⟨_, (current?_eq_some_iff stage).1 hcurrent, .inl (Nat.le_succ _)⟩
  | submitted => cases hplace
  | refused | atEnd | atStart | languageSet | optionsPresented =>
    exact ⟨place, (current?_eq_some_iff hplace).1 hcurrent, .inl (Nat.le_refl _)⟩

/-- In every state that a history of operations leads to, whatever is done next: if the question
that is current then comes after the one that was, in the order of presentation drawn at the start,
and that one is still visible, then that one is answered as it asks, and no visible question is
between the two. -/
theorem no_invalid_passed [Source σ] {draws : σ} {language : Option String}
    (hids : survey.DistinctIds) (hstart : start survey draws language = .ok i)
    (history : List Operation) (hcurrent : (i.run survey history).current? survey = some q)
    (operation : Operation) (hafter : after = ((i.run survey history).step survey operation).1)
    (hvisible : q ∈ after.visible survey) {next : Question}
    (hnext : after.current? survey = some next) (hlater : Precedes (i.presented survey) q next) :
    q.validate after.answers = .ok () ∧
      ∀ other ∈ after.visible survey,
        ¬(Precedes (i.presented survey) q other ∧ Precedes (i.presented survey) other next) := by
  have hi := (Coherent.start hstart).run history
  have hstep := step_transition survey (i.run survey history) operation
  rw [← hafter] at hstep
  have hpresented : after.presented survey = i.presented survey := by
    rw [← presented_run survey i history, presented, presented, hstep.order_eq]
  have hnodup : (after.visible survey).Nodup :=
    (List.Nodup.of_map _ ((hi.transition hstep).nodup_presented hids)).filter _
  -- What is visible stands in the order of presentation.
  have hshown : ∀ {a b : Question}, Precedes (i.presented survey) a b → a ∈ after.visible survey →
      b ∈ after.visible survey → Precedes (after.visible survey) a b := by
    intro a b hab ha hb
    rw [← hpresented] at hab
    exact hab.filter (List.mem_filter.1 ha).2 (List.mem_filter.1 hb).2
  obtain ⟨place, hplace⟩ := exists_stage_of_current? hnext
  have hnextPlace := (current?_eq_some_iff hplace).1 hnext
  have hnextVisible := mem_visible_of_current? hnext
  obtain ⟨kept, hkept, hcursor⟩ := hstep.exists_place hi hids hcurrent hvisible hplace
  have hlt : kept < place := (hshown hlater hvisible hnextVisible).lt hnodup hkept hnextPlace
  obtain hle | ⟨hsucc, hvalid⟩ := hcursor
  · omega
  refine ⟨hvalid, fun other hother hbetween => ?_⟩
  obtain ⟨n, hn⟩ := List.mem_iff_getElem?.1 hother
  have hfirst : kept < n := (hshown hbetween.1 hvisible hother).lt hnodup hkept hn
  have hsecond : n < place := (hshown hbetween.2 hother hnextVisible).lt hnodup hn hnextPlace
  omega

/-- The survey of pets, where the cursor moves on by itself. -/
def promptPetSurvey : Survey :=
  petSurvey.withNavigation .autoAdvance

/-- The answer `yes` alone takes the cursor past `pet`, to the question that it reveals. -/
theorem no_invalid_passed_promptPetSurvey :
    promptPetSurvey.DistinctIds ∧ ∃ i after pet name,
      start promptPetSurvey (Keystream.ofSeed 0) none = .ok i ∧
      i.current? promptPetSurvey = some pet ∧
      after = (i.step promptPetSurvey (.respond "pet" (.text "yes"))).1 ∧
      pet ∈ after.visible promptPetSurvey ∧ after.current? promptPetSurvey = some name ∧
      Precedes (i.presented promptPetSurvey) pet name ∧ pet.validate after.answers = .ok () ∧
      ∀ other ∈ after.visible promptPetSurvey,
        ¬(Precedes (i.presented promptPetSurvey) pet other ∧
          Precedes (i.presented promptPetSurvey) other name) := by
  have hids : promptPetSurvey.DistinctIds := by decide
  have hstart : start promptPetSurvey (Keystream.ofSeed 0) none = .ok _ := rfl
  refine ⟨hids, _, _, _, _, hstart, rfl, rfl, List.mem_cons_self, rfl,
    ⟨[_], [], rfl, List.mem_singleton_self _⟩, ?_⟩
  exact no_invalid_passed hids hstart [] rfl (.respond "pet" (.text "yes")) rfl
    List.mem_cons_self rfl ⟨[_], [], rfl, List.mem_singleton_self _⟩

end Interview

end Questionnaire
