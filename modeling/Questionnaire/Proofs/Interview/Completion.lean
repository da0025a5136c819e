import Questionnaire.Proofs.Interview.Submission

/-!
# Completion

Submission ends an interview. A completed interview refuses every operation before it looks at
anything else, except that options can still be presented, which does no more than draw further
numbers. So the report stays, and with it the order, the answers, the visibility and the languages
(`completed_is_final`).

Nothing of the way that led to a submission is left in the report but the last answers and the
language. The order in which questions are presented is drawn at the start, visibility is that of
the answers, and texts are resolved when the report is drawn up (`draftReport_run`). So two
interviews that draw the same numbers, and that end with the same answers and in the same language,
are submitted with the same report (`report_determined`).
-/

namespace Questionnaire.Interview

variable {σ : Type} [Source σ] {survey : Survey} {i j after : Interview σ} {report : Report}

/-! ## A completed interview -/

/-- An operation on a completed interview changes nothing but the source of further draws. -/
theorem Transition.of_completed {operation : Operation} {reply : Reply}
    (h : Transition survey i operation after reply) (hstage : i.stage = .completed report) :
    ∃ draws, after = { i with draws } := by
  cases h with
  | refused => exact ⟨i.draws, rfl⟩
  | optionsPresented => exact ⟨_, rfl⟩
  | answered _ stage | movedOn stage | atEnd stage | movedBack stage | atStart stage
  | submitted stage | languageSet stage =>
    rw [hstage] at stage
    cases stage

/-- A history of operations on a completed interview changes nothing but the source of further
draws. -/
theorem run_of_completed (hstage : i.stage = .completed report) (later : List Operation) :
    ∃ draws, i.run survey later = { i with draws } := by
  refine run_induction (P := fun j => ∃ draws, j = { i with draws }) ?_ ⟨i.draws, rfl⟩ later
  rintro _ after operation reply h ⟨draws, rfl⟩
  exact h.of_completed hstage

/-- A completed interview refuses every operation but the presentation of options because it is
completed, whatever question or language is named. -/
theorem step_of_completed (hstage : i.stage = .completed report) {operation : Operation}
    (hoperation : ∀ id, operation ≠ .presentOptions id) :
    i.step survey operation = (i, .refused .completed) := by
  have hanswering : i.requireAnswering = .error .completed := by rw [requireAnswering, hstage]
  cases operation with
  | respond id answer =>
    rw [step, respond, hanswering]
    rfl
  | next =>
    rw [step, next, hanswering]
    rfl
  | previous =>
    rw [step, previous, hanswering]
    rfl
  | submit =>
    rw [step, submit, hanswering]
    rfl
  | setLanguage language =>
    rw [step, setLanguage, hanswering]
    rfl
  | presentOptions id => exact absurd rfl (hoperation id)

/-- Once the survey is submitted, no history of operations changes anything but the source of
further draws: the report is the one given back, and the order, the answers, the visibility and the
languages are those at submission. After any such history every operation but the presentation of
options is refused because the survey has been submitted, whatever question or language it names. -/
theorem completed_is_final (h : i.submit survey = .ok (after, report)) (later : List Operation) :
    (∃ draws, after.run survey later = { i with stage := .completed report, draws }) ∧
      ∀ operation, (∀ id, operation ≠ .presentOptions id) →
        (after.run survey later).step survey operation =
          (after.run survey later, .refused .completed) := by
  obtain ⟨position, -, -, hafter, hreport⟩ := submit_eq_ok_iff.1 h
  rw [← hreport] at hafter
  have hstage : after.stage = .completed report := by rw [hafter]
  obtain ⟨draws, hrun⟩ : ∃ draws, after.run survey later = { after with draws } :=
    run_of_completed hstage later
  have hlater : (after.run survey later).stage = .completed report := by rw [hrun, hstage]
  refine ⟨⟨draws, ?_⟩, fun operation => step_of_completed hlater⟩
  rw [hrun, hafter]

/-- What a respondent may try after submission, with a question and a language that the survey does
not have. -/
def petEncore : List Operation :=
  [.respond "pet" (.text "yes"), .respond "owner" (.text "Ada"), .next, .previous, .submit,
   .setLanguage "tlh", .presentOptions "pet"]

/-- After all that the report is still there, and the survey is not submitted again. -/
theorem completed_is_final_petSurvey :
    ∃ i after report, start petSurvey (Keystream.ofSeed 0) none = .ok i ∧
      (i.run petSurvey petRetraction).submit petSurvey = .ok (after, report) ∧
      (after.run petSurvey petEncore).report? = some report ∧
      (after.run petSurvey petEncore).answers.get? "pet" = some (.text "no") ∧
      (after.run petSurvey petEncore).step petSurvey .submit =
        (after.run petSurvey petEncore, .refused .completed) := by
  obtain ⟨i, after, report, hstart, hsubmit, hpet⟩ : ∃ i after report,
      start petSurvey (Keystream.ofSeed 0) none = .ok i ∧
      (i.run petSurvey petRetraction).submit petSurvey = .ok (after, report) ∧
      (i.run petSurvey petRetraction).answers.get? "pet" = some (.text "no") :=
    ⟨_, _, _, rfl, rfl, rfl⟩
  obtain ⟨⟨draws, hrun⟩, hrefused⟩ := completed_is_final hsubmit petEncore
  refine ⟨i, after, report, hstart, hsubmit, ?_, ?_, hrefused .submit nofun⟩
  · rw [hrun]
    rfl
  · rw [hrun]
    exact hpet

/-! ## What a report depends on -/

/-- No answer is recorded for a question that the survey does not have. -/
theorem Transition.recordedBy?_eq_none {operation : Operation} {reply : Reply}
    (h : Transition survey i operation after reply) {id : String}
    (hid : survey.question? id = none) : recordedBy? id (operation, reply) = none := by
  cases h with
  | answered answer stage question =>
    refine if_neg fun heq => ?_
    rw [heq, hid] at question
    cases question
  | refused => cases operation <;> rfl
  | _ => rfl

/-- In no run there is an answer to a question that the survey does not have. -/
theorem get?_answers_run_of_unknown {draws : σ} {language : Option String}
    (hstart : start survey draws language = .ok i) (history : List Operation) {id : String}
    (hid : survey.question? id = none) : (i.run survey history).answers.get? id = none := by
  have hempty : i.answers.get? id = none := by
    obtain ⟨-, rfl⟩ := start_eq_ok_iff.1 hstart
    exact IdMap.get?_empty id
  refine run_induction (P := fun j => j.answers.get? id = none) (fun h hi => ?_) hempty history
  rw [h.get?_answers, h.recordedBy?_eq_none hid, hi, Option.or_none]

/-- Runs that last recorded the same for each question of the survey have the same answers. -/
theorem answers_run_eq {draws others : σ} {first second : Option String}
    (hi : start survey draws first = .ok i) (hj : start survey others second = .ok j)
    {xs ys : List Operation}
    (h : ∀ q ∈ survey.questions,
      lastRecorded? q.id (i.trace survey xs) = lastRecorded? q.id (j.trace survey ys)) :
    (i.run survey xs).answers = (j.run survey ys).answers := by
  refine IdMap.ext_get? fun id => ?_
  cases hid : survey.question? id with
  | none => rw [get?_answers_run_of_unknown hi xs hid, get?_answers_run_of_unknown hj ys hid]
  | some q =>
    have hsame := h q (Survey.mem_of_question?_eq_some hid)
    rw [id_of_question?_eq_some hid] at hsame
    obtain ⟨-, hi⟩ := start_eq_ok_iff.1 hi
    obtain ⟨-, hj⟩ := start_eq_ok_iff.1 hj
    rw [get?_answers_run, get?_answers_run, hsame, hi, hj]

/-- Interviews that draw from the same source present the questions in the same order, in whatever
languages they start. -/
theorem presented_start_eq {draws : σ} {first second : Option String}
    (hi : start survey draws first = .ok i) (hj : start survey draws second = .ok j) :
    i.presented survey = j.presented survey := by
  obtain ⟨-, rfl⟩ := start_eq_ok_iff.1 hi
  obtain ⟨-, rfl⟩ := start_eq_ok_iff.1 hj
  rfl

/-- The report that would be drawn up after a history is told by the order drawn at the start, the
answers and the language. -/
theorem draftReport_run {draws : σ} {language : Option String}
    (hstart : start survey draws language = .ok i) (history : List Operation) :
    (i.run survey history).draftReport survey =
      .capture survey.id (i.presented survey) (i.run survey history).answers
        (.resolve survey.questions (i.run survey history).answers)
        ⟨(i.run survey history).locale.active, survey.settings.defaultLanguage⟩ := by
  have hlocale : (i.run survey history).locale =
      ⟨(i.run survey history).locale.active, survey.settings.defaultLanguage⟩ := by
    rw [← fallback_run hstart history]
  rw [draftReport, presented_run, ((Coherent.start hstart).run history).visibility_eq, ← hlocale]

/-- Two interviews on a survey that draw from the same source are submitted with the same report if
the last answer recorded for each question and the language are the same, whatever was answered
before, in whatever order and language, and wherever the cursor went. -/
theorem report_determined {draws : σ} {first second : Option String}
    (hi : start survey draws first = .ok i) (hj : start survey draws second = .ok j)
    {xs ys : List Operation} {iAfter jAfter : Interview σ} {iReport jReport : Report}
    (hxs : (i.run survey xs).submit survey = .ok (iAfter, iReport))
    (hys : (j.run survey ys).submit survey = .ok (jAfter, jReport))
    (hanswers : ∀ q ∈ survey.questions,
      lastRecorded? q.id (i.trace survey xs) = lastRecorded? q.id (j.trace survey ys))
    (hlanguage : (i.run survey xs).locale.active = (j.run survey ys).locale.active) :
    iReport = jReport := by
  obtain ⟨-, -, -, -, rfl⟩ := submit_eq_ok_iff.1 hxs
  obtain ⟨-, -, -, -, rfl⟩ := submit_eq_ok_iff.1 hys
  have hsame : (i.run survey xs).answers = (j.run survey ys).answers :=
    answers_run_eq hi hj hanswers
  calc (i.run survey xs).draftReport survey
    _ = .capture survey.id (i.presented survey) (i.run survey xs).answers
          (.resolve survey.questions (i.run survey xs).answers)
          ⟨(i.run survey xs).locale.active, survey.settings.defaultLanguage⟩ :=
        draftReport_run hi xs
    _ = .capture survey.id (j.presented survey) (j.run survey ys).answers
          (.resolve survey.questions (j.run survey ys).answers)
          ⟨(j.run survey ys).locale.active, survey.settings.defaultLanguage⟩ := by
        rw [presented_start_eq hi hj, hsame, hlanguage]
    _ = (j.run survey ys).draftReport survey := (draftReport_run hj ys).symm

/-- The questions on pets, in two languages. -/
def bilingualSurvey : Survey :=
  { petSurvey with settings := { languages := ["en", "de"] } }

/-- A respondent goes through the questions one by one. -/
def straightHistory : List Operation :=
  [.respond "pet" (.text "yes"), .next, .respond "name" (.text "Rex")]

/-- A respondent names the pet before there is one, changes the answer to `pet` twice, and the
language once. -/
def windingHistory : List Operation :=
  [.respond "name" (.text "Rex"), .presentOptions "pet", .respond "pet" (.text "yes"),
   .respond "pet" (.text "no"), .setLanguage "en", .respond "pet" (.text "yes")]

/-- Both ways end in the same report on two questions. -/
theorem report_determined_bilingualSurvey :
    ∃ i j iAfter jAfter iReport jReport,
      start bilingualSurvey (Keystream.ofSeed 0) none = .ok i ∧
      start bilingualSurvey (Keystream.ofSeed 0) (some "de") = .ok j ∧
      (i.run bilingualSurvey straightHistory).submit bilingualSurvey = .ok (iAfter, iReport) ∧
      (j.run bilingualSurvey windingHistory).submit bilingualSurvey = .ok (jAfter, jReport) ∧
      iReport.entries.map Report.Entry.questionId = ["pet", "name"] ∧ iReport = jReport := by
  obtain ⟨i, j, iAfter, jAfter, iReport, jReport, hi, hj, hxs, hys, hentries, hanswers,
      hlanguage⟩ : ∃ i j iAfter jAfter iReport jReport,
      start bilingualSurvey (Keystream.ofSeed 0) none = .ok i ∧
      start bilingualSurvey (Keystream.ofSeed 0) (some "de") = .ok j ∧
      (i.run bilingualSurvey straightHistory).submit bilingualSurvey = .ok (iAfter, iReport) ∧
      (j.run bilingualSurvey windingHistory).submit bilingualSurvey = .ok (jAfter, jReport) ∧
      iReport.entries.map Report.Entry.questionId = ["pet", "name"] ∧
      (∀ q ∈ bilingualSurvey.questions,
        lastRecorded? q.id (i.trace bilingualSurvey straightHistory) =
          lastRecorded? q.id (j.trace bilingualSurvey windingHistory)) ∧
      (i.run bilingualSurvey straightHistory).locale.active =
        (j.run bilingualSurvey windingHistory).locale.active :=
    ⟨_, _, _, _, _, _, rfl, rfl, rfl, rfl, rfl, by decide, rfl⟩
  have hsame : iReport = jReport := report_determined hi hj hxs hys hanswers hlanguage
  exact ⟨i, j, iAfter, jAfter, iReport, jReport, hi, hj, hxs, hys, hentries, hsame⟩

end Questionnaire.Interview
