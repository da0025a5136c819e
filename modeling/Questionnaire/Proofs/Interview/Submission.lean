import Questionnaire.Proofs.Interview.Cursor

/-!
# Submission

A survey can be submitted unless the current question is answered otherwise than it asks
(`submit_eq_error_iff`), and then it is completed with a report. What is in the report is said here
without the program that draws it up: a question has an entry when it is visible by the rules, is
no section break, and has an answer that says something (`EntryOn`); the entries stand in the order
of presentation drawn at the start, one for each such question (`ReportOn`).

Nothing that a state keeps beside the answers can spoil the report. Its visibility is that of the
answers and its order the one drawn at the start, both by coherence, and the language that stands in
for others is always the default one of the survey (`fallback_run`). So the report of any state that
can be reached is on that state (`submit_reports`).
-/

namespace Questionnaire.Interview

variable {σ : Type}

/-! ## The gate -/

/-- Going on is refused for the violation of the current question, and for nothing else. -/
theorem requireValid_eq_error_iff {survey : Survey} {i : Interview σ} {refusal : Refusal} :
    i.requireValid survey = .error refusal ↔
      ∃ q violation, i.current? survey = some q ∧ q.validate i.answers = .error violation ∧
        refusal = .invalid q.id violation := by
  unfold requireValid
  split
  next h => simp [h]
  next q h =>
    simp only [h, Option.some.injEq]
    split
    next hvalid => simp [hvalid]
    next violation hinvalid =>
      rw [Except.error.injEq, eq_comm]
      exact ⟨fun heq => ⟨q, violation, rfl, hinvalid, heq⟩, fun ⟨_, _, hq, hv, heq⟩ => by
        subst hq
        rw [hinvalid, Except.error.injEq] at hv
        rw [heq, hv]⟩

/-- While the survey is being answered, submission is refused exactly when the current question is
answered otherwise than it asks, and the refusal names its violation. -/
theorem submit_eq_error_iff {survey : Survey} {i : Interview σ} {position : Nat} {refusal : Refusal}
    (hstage : i.stage = .answering position) :
    i.submit survey = .error refusal ↔
      ∃ q violation, i.current? survey = some q ∧ q.validate i.answers = .error violation ∧
        refusal = .invalid q.id violation := by
  rw [← requireValid_eq_error_iff, submit, requireAnswering_eq_ok_iff.2 hstage]
  cases hvalid : i.requireValid survey with
  | error other => simp [bind, Except.bind]
  | ok => simp [bind, Except.bind, pure, Except.pure]

/-! ## The language -/

/-- An operation leaves the language that stands in for others. -/
theorem Transition.fallback_eq [Source σ] {survey : Survey} {i after : Interview σ}
    {operation : Operation} {reply : Reply} (h : Transition survey i operation after reply) :
    after.locale.fallback = i.locale.fallback := by
  cases h <;> rfl

/-- In every run the default language of the survey stands in for others. -/
theorem fallback_run [Source σ] {survey : Survey} {draws : σ} {language : Option String}
    {i : Interview σ} (h : start survey draws language = .ok i) (history : List Operation) :
    (i.run survey history).locale.fallback = survey.settings.defaultLanguage := by
  have hstart : i.locale.fallback = survey.settings.defaultLanguage := by
    obtain ⟨-, rfl⟩ := start_eq_ok_iff.1 h
    rfl
  exact run_induction (P := fun j => j.locale.fallback = survey.settings.defaultLanguage)
    (fun h hi => h.fallback_eq.trans hi) hstart history

/-- A history of operations leaves the order in which questions are presented. -/
theorem presented_run [Source σ] (survey : Survey) (i : Interview σ) (history : List Operation) :
    (i.run survey history).presented survey = i.presented survey := by
  unfold presented
  rw [order_run]

/-- In a coherent state a question of the survey is among the visible ones exactly when it is
visible by the rules. -/
theorem Coherent.admits_iff {survey : Survey} {i : Interview σ} (hi : Coherent survey i)
    (hids : survey.DistinctIds) {q : Question} (hq : q ∈ survey.questions) :
    i.admits q = true ↔ DeclaredVisible survey.questions i.answers q.id := by
  rw [admits, hi.visibility_eq, Visibility.admits, Visibility.get?_resolve,
    if_pos (List.mem_map_of_mem hq), Option.getD_some, isVisibleUnder_standing_iff hids]

/-! ## Reports -/

/-- An entry says of a question what the state holds of it: the question is visible by the rules, no
section break, and has an answer that says something; the entry has that answer as it is and its
texts in the active language, or else the default one. -/
structure EntryOn (survey : Survey) (i : Interview σ) (q : Question) (entry : Report.Entry) :
    Prop where
  /-- The question is visible. -/
  visible : DeclaredVisible survey.questions i.answers q.id
  /-- The question is one that is answered. -/
  no_break : q.body ≠ .sectionBreak
  /-- The answer is the one that the state holds. -/
  answer_eq : i.answers.get? q.id = some entry.answer
  /-- The answer says something. -/
  not_empty : entry.answer.isEmpty = false
  /-- The entry names the question. -/
  id_eq : entry.questionId = q.id
  /-- The entry has the kind of the question. -/
  kind_eq : entry.kind = q.kind
  /-- The question stands in the active language. -/
  text_eq : entry.text = q.text.resolve i.locale.active survey.settings.defaultLanguage
  /-- The answer reads as it does in the active language. -/
  display_eq : entry.display =
    q.display entry.answer ⟨i.locale.active, survey.settings.defaultLanguage⟩

/-- A report is on a state: it has an entry for each question that is to have one, in the given
order, and nothing else. -/
structure ReportOn (survey : Survey) (i : Interview σ) (presented : List Question)
    (report : Report) : Prop where
  /-- The report names the survey. -/
  survey_eq : report.surveyId = survey.id
  /-- The report names the active language. -/
  language_eq : report.language = i.locale.active
  /-- The entries are in order. -/
  in_order : (report.entries.map Report.Entry.questionId).Sublist (presented.map Question.id)
  /-- No question has two entries. -/
  once : (report.entries.map Report.Entry.questionId).Nodup
  /-- The entries are those on the questions of the survey. -/
  mem_iff : ∀ entry, entry ∈ report.entries ↔ ∃ q ∈ survey.questions, EntryOn survey i q entry

/-- A section break is told by its body. -/
theorem isSectionBreak_eq_false_iff {q : Question} :
    q.isSectionBreak = false ↔ q.body ≠ .sectionBreak := by
  unfold Question.isSectionBreak
  split
  next h => simp [h]
  next h => simpa using h

/-- An entry is drawn up of a question exactly when it is one on it. -/
theorem Coherent.reported?_eq_some_iff {survey : Survey} {i : Interview σ} (hi : Coherent survey i)
    (hids : survey.DistinctIds) (hfallback : i.locale.fallback = survey.settings.defaultLanguage)
    {q : Question} (hq : q ∈ survey.questions) {entry : Report.Entry} :
    Report.reported? i.answers i.visibility i.locale q = some entry ↔ EntryOn survey i q entry := by
  have hadmits : i.visibility.admits q.id = true ↔
      DeclaredVisible survey.questions i.answers q.id := hi.admits_iff hids hq
  have hlocale : i.locale = ⟨i.locale.active, survey.settings.defaultLanguage⟩ := by
    rw [← hfallback]
  rw [Report.reported?_eq_some_iff, isSectionBreak_eq_false_iff, hadmits]
  constructor
  · rintro ⟨hbreak, hvisible, answer, hanswer, hempty, rfl⟩
    exact {
      visible := hvisible
      no_break := hbreak
      answer_eq := hanswer
      not_empty := hempty
      id_eq := rfl
      kind_eq := rfl
      text_eq := by rw [← hfallback]; rfl
      display_eq := by rw [← hlocale] }
  · intro h
    have hdisplay : q.display entry.answer i.locale = entry.display := by
      rw [h.display_eq, ← hlocale]
    have htext : i.locale.resolve q.text = entry.text := by
      rw [h.text_eq, Locale.resolve, hfallback]
    refine ⟨h.no_break, h.visible, entry.answer, h.answer_eq, h.not_empty, ?_⟩
    rw [htext, hdisplay, ← h.id_eq, ← h.kind_eq]

/-- The ids of the entries are ids of the presented questions, in their order. -/
theorem sublist_capture (surveyId : String) (presented : List Question) (answers : Answers)
    (visibility : Visibility) (locale : Locale) :
    ((Report.capture surveyId presented answers visibility locale).entries.map
      Report.Entry.questionId).Sublist (presented.map Question.id) := by
  have hid : ∀ {q : Question} {entry : Report.Entry},
      Report.reported? answers visibility locale q = some entry → entry.questionId = q.id := by
    intro q entry h
    obtain ⟨-, -, answer, -, -, rfl⟩ := Report.reported?_eq_some_iff.1 h
    rfl
  unfold Report.capture
  -- The entries come in the order of the questions, of which some are passed over.
  induction presented with
  | nil => exact .slnil
  | cons q rest ih =>
    cases h : Report.reported? answers visibility locale q with
    | none =>
      rw [List.filterMap_cons_none h]
      exact ih.cons q.id
    | some entry =>
      rw [List.filterMap_cons_some h, List.map_cons, List.map_cons, hid h]
      exact ih.cons_cons q.id

/-- The report drawn up of a coherent state is on that state. -/
theorem Coherent.reportOn {survey : Survey} {i : Interview σ} (hi : Coherent survey i)
    (hids : survey.DistinctIds) (hfallback : i.locale.fallback = survey.settings.defaultLanguage) :
    ReportOn survey i (i.presented survey) (i.draftReport survey) where
  survey_eq := rfl
  language_eq := rfl
  in_order := sublist_capture ..
  once := (sublist_capture ..).nodup (hi.nodup_presented hids)
  mem_iff entry := by
    unfold draftReport Report.capture
    rw [List.mem_filterMap]
    constructor
    · rintro ⟨q, hq, hentry⟩
      have hmem := hi.mem_questions hq
      exact ⟨q, hmem, (hi.reported?_eq_some_iff hids hfallback hmem).1 hentry⟩
    · rintro ⟨q, hq, hentry⟩
      have hpresented := hi.presented_perm.mem_iff.2 hq
      exact ⟨q, hpresented, (hi.reported?_eq_some_iff hids hfallback hq).2 hentry⟩

/-- A question that is not visible has no entry in a report. -/
theorem ReportOn.not_mem_of_hidden {survey : Survey} {i : Interview σ} {presented : List Question}
    {report : Report} (h : ReportOn survey i presented report) {q : Question}
    (hhidden : ¬ DeclaredVisible survey.questions i.answers q.id) :
    q.id ∉ report.entries.map Report.Entry.questionId := by
  intro hmem
  obtain ⟨entry, hentry, hid⟩ := List.mem_map.1 hmem
  obtain ⟨other, -, hon⟩ := (h.mem_iff entry).1 hentry
  exact hhidden (hid ▸ hon.id_eq ▸ hon.visible)

/-! ## Submitting -/

/-- In every state of every run in which the survey is being answered, submission is refused as
invalid exactly for the violation of the current question. Otherwise the survey is completed with a
report on that state, with entries in the order drawn at the start; questions hidden then have no
entry, and the answers to them stay. -/
theorem submit_reports [Source σ] {survey : Survey} {draws : σ} {language : Option String}
    {i : Interview σ} (hids : survey.DistinctIds) (hstart : start survey draws language = .ok i)
    (history : List Operation) {position : Nat}
    (hstage : (i.run survey history).stage = .answering position) :
    (∀ id violation, (i.run survey history).submit survey = .error (.invalid id violation) ↔
        ∃ q, (i.run survey history).current? survey = some q ∧ q.id = id ∧
          q.validate (i.run survey history).answers = .error violation) ∧
      ((¬ ∃ q violation, (i.run survey history).current? survey = some q ∧
          q.validate (i.run survey history).answers = .error violation) →
        ∃ after report, (i.run survey history).submit survey = .ok (after, report) ∧
          after = { i.run survey history with stage := .completed report } ∧
          ReportOn survey (i.run survey history) (i.presented survey) report ∧
          ∀ q ∈ survey.questions,
            ¬ DeclaredVisible survey.questions (i.run survey history).answers q.id →
              q.id ∉ report.entries.map Report.Entry.questionId ∧
              after.answers.get? q.id = (i.run survey history).answers.get? q.id) := by
  have hcoherent := (Coherent.start hstart).run history
  have hreport := hcoherent.reportOn hids (fallback_run hstart history)
  rw [presented_run] at hreport
  refine ⟨fun id violation => ?_, fun hvalid => ?_⟩
  · rw [submit_eq_error_iff hstage]
    constructor
    · rintro ⟨q, other, hq, hother, heq⟩
      cases heq
      exact ⟨q, hq, rfl, hother⟩
    · rintro ⟨q, hq, rfl, hviolation⟩
      exact ⟨q, violation, hq, hviolation, rfl⟩
  · have hrequired : (i.run survey history).requireValid survey = .ok () := by
      refine requireValid_eq_ok_iff.2 fun q hq => ?_
      cases hcheck : q.validate (i.run survey history).answers with
      | ok => rfl
      | error violation => exact absurd ⟨q, violation, hq, hcheck⟩ hvalid
    exact ⟨_, _, submit_eq_ok_iff.2 ⟨position, hstage, hrequired, rfl, rfl⟩, rfl, hreport,
      fun q _ hhidden => ⟨hreport.not_mem_of_hidden hhidden, rfl⟩⟩

/-- A respondent names a pet, then takes back having one. -/
def petRetraction : List Operation :=
  [.respond "pet" (.text "yes"), .next, .respond "name" (.text "Rex"), .respond "pet" (.text "no")]

/-- The report has the last answer to `pet` and nothing of `name`, whose answer stays. -/
theorem submit_reports_petSurvey :
    petSurvey.DistinctIds ∧ ∃ i, start petSurvey (Keystream.ofSeed 0) none = .ok i ∧
      (i.run petSurvey petRetraction).stage = .answering 0 ∧
      ∃ after report, (i.run petSurvey petRetraction).submit petSurvey = .ok (after, report) ∧
        report.entries.map Report.Entry.questionId = ["pet"] ∧
        after.answers.get? "name" = some (.text "Rex") := by
  have hids : petSurvey.DistinctIds := by decide
  have hstart : start petSurvey (Keystream.ofSeed 0) none = .ok _ := rfl
  obtain ⟨-, hsubmit⟩ := submit_reports hids hstart petRetraction rfl
  obtain ⟨after, report, hok, hafter, hon, hhidden⟩ := hsubmit (by
    rintro ⟨q, violation, hq, hviolation⟩
    cases hq
    cases hviolation)
  refine ⟨hids, _, hstart, rfl, after, report, hok, ?_, ?_⟩
  · cases hok
    rfl
  · rw [hafter]
    rfl

end Questionnaire.Interview
