import Mathlib.Data.Finset.Card
import Questionnaire.Proofs.Survey.RoundTrip
import Questionnaire.Proofs.Survey.Sites

/-!
# Repeated ids, refused and found

A survey in which an id is repeated is refused when it is loaded. Built otherwise it is not refused,
and what is found of it tells every repetition. The two agree (`Survey.loadedAsFound_of_ofJson`): a
text is refused for a repeated id exactly if such a finding is made of the survey in it, the id is
that of the first of them, and there are as many of them as there are more questions than ids.

Loading and finding go through the questions each on its own, both with the ids already seen: the
one stops at the first that is repeated (`Survey.firstRepetition?`), the other collects all
(`Survey.repeatedIds`). The first that is collected is where the other stops
(`Survey.head?_repeatedIds`), and `Survey.FirstRepeats` says which question that is without going
through them.
-/

namespace Questionnaire

/-- Whether a finding is that an id is repeated. -/
def Finding.isRepetition : Finding → Bool
  | .duplicateQuestionId .. => true
  | .unknownTarget .. | .selfTarget .. | .conditionNotApplicable .. | .numericComparisonOnText ..
  | .noOptions .. | .emptyMatrix .. | .defaultLanguageNotEnabled .. => false

namespace Survey

variable {survey : Survey} {q : Question} {finding : Finding}

/-! ## The walk that stops -/

/-- The walk goes past questions whose ids differ and were not seen, and has then seen them. -/
theorem firstRepetition?_append {seen : List String} {before : List Question}
    (hnodup : (before.map Question.id).Nodup) (hfresh : ∀ p ∈ before, p.id ∉ seen)
    (rest : List Question) :
    firstRepetition? seen (before ++ rest) =
      firstRepetition? ((before.map Question.id).reverse ++ seen) rest := by
  induction before generalizing seen with
  | nil => rfl
  | cons p before ih =>
    rw [List.map_cons, List.nodup_cons] at hnodup
    rw [List.forall_mem_cons] at hfresh
    obtain ⟨hp, hnodup⟩ := hnodup
    -- Going past `p` adds its id to those seen, from which the rest differ as well.
    have hlater : ∀ other ∈ before, other.id ∉ p.id :: seen := by
      intro other hother
      rw [List.mem_cons, not_or]
      exact ⟨fun heq => hp (heq ▸ List.mem_map_of_mem hother), hfresh.2 other hother⟩
    rw [List.cons_append, firstRepetition?, if_neg (by simpa using hfresh.1), ih hnodup hlater]
    simp

/-- Where the walk stops is a question with an id already seen, or that of a question before it. The
questions before it have ids that differ and were not seen. -/
theorem exists_of_firstRepetition? {seen : List String} {questions : List Question} {id : String}
    (h : firstRepetition? seen questions = some id) :
    ∃ before q after, questions = before ++ q :: after ∧ (before.map Question.id).Nodup ∧
      (∀ p ∈ before, p.id ∉ seen) ∧ (q.id ∈ before.map Question.id ∨ q.id ∈ seen) ∧
      q.id = id := by
  induction questions generalizing seen with
  | nil => cases h
  | cons p rest ih =>
    rw [firstRepetition?] at h
    split at h
    case isTrue hseen =>
      have hq : p.id ∈ seen := by simpa using hseen
      exact ⟨[], p, rest, rfl, .nil, by simp, .inr hq, Option.some.inj h⟩
    case isFalse hseen =>
      obtain ⟨before, q, after, rfl, hnodup, hfresh, hq, hid⟩ := ih h
      -- From here on the id of `p` counts as seen, so the walk went past no other with it.
      have hp : p.id ∉ before.map Question.id := by
        intro hmem
        obtain ⟨other, hother, heq⟩ := List.mem_map.1 hmem
        exact hfresh other hother (heq ▸ List.mem_cons_self)
      refine ⟨p :: before, q, after, rfl, List.nodup_cons.2 ⟨hp, hnodup⟩, ?_, ?_, hid⟩
      · rw [List.forall_mem_cons]
        exact ⟨by simpa using hseen,
          fun other hother hmem => hfresh other hother (List.mem_cons_of_mem _ hmem)⟩
      · simp only [List.map_cons, List.mem_cons] at hq ⊢
        tauto

/-- The first question in authored order whose id occurred before has the id: the questions before
it have ids that differ, and its own is among them. -/
def FirstRepeats (survey : Survey) (id : String) : Prop :=
  ∃ before q after, survey.questions = before ++ q :: after ∧ (before.map Question.id).Nodup ∧
    q.id ∈ before.map Question.id ∧ q.id = id

/-- The walk through a survey stops at the first question whose id occurred before. -/
theorem firstRepetition?_eq_some_iff {id : String} :
    firstRepetition? [] survey.questions = some id ↔ survey.FirstRepeats id := by
  constructor
  · intro h
    obtain ⟨before, q, after, hquestions, hnodup, -, hq, hid⟩ := exists_of_firstRepetition? h
    exact ⟨before, q, after, hquestions, hnodup, hq.resolve_right List.not_mem_nil, hid⟩
  · rintro ⟨before, q, after, hquestions, hnodup, hq, rfl⟩
    rw [hquestions, firstRepetition?_append hnodup fun _ _ => List.not_mem_nil, firstRepetition?,
      if_pos (by simpa using hq)]

/-- A survey is refused for the id at which the walk stops. -/
theorem checkIds_eq_error_iff {id : String} :
    survey.checkIds = .error (.duplicateId id) ↔
      firstRepetition? [] survey.questions = some id := by
  rw [checkIds]
  cases firstRepetition? [] survey.questions with
  | none => simp
  | some first => simp

/-! ## The walk that collects -/

/-- The first id that the walk collects is the one at which the other stops. -/
theorem head?_repeatedIds (seen : List String) (questions : List Question) :
    (repeatedIds seen questions).head? = firstRepetition? seen questions := by
  induction questions generalizing seen with
  | nil => rfl
  | cons q rest ih =>
    rw [repeatedIds, firstRepetition?]
    split
    · rfl
    · exact ih _

/-- What is found of a question or of its rules is not that an id is repeated. -/
theorem isRepetition_of_mem_questionFindings (h : finding ∈ survey.questionFindings q) :
    finding.isRepetition = false := by
  rw [questionFindings, List.mem_append, List.mem_flatMap] at h
  rcases h with hchoice | ⟨rule, -, hrule⟩
  · obtain ⟨-, -, -, rfl⟩ | ⟨-, -, rfl⟩ := mem_choiceFindings_iff.1 hchoice <;> rfl
  · rcases List.mem_append.1 hrule with htarget | hcondition
    · obtain ⟨-, rfl⟩ | ⟨-, -, rfl⟩ := Rule.mem_targetFindings_iff.1 htarget <;> rfl
    · obtain ⟨-, rfl⟩ | ⟨-, -, -, rfl⟩ := Rule.mem_conditionFindings_iff.1 hcondition <;> rfl

/-- Among the findings those that an id is repeated are the ids that the walk collects, in its
order. -/
theorem filter_isRepetition_findings (survey : Survey) :
    survey.findings.filter Finding.isRepetition =
      (repeatedIds [] survey.questions).map .duplicateQuestionId := by
  have hrepeated : ((repeatedIds [] survey.questions).map Finding.duplicateQuestionId).filter
      Finding.isRepetition = (repeatedIds [] survey.questions).map .duplicateQuestionId := by
    rw [List.filter_eq_self, List.forall_mem_map]
    exact fun _ _ => rfl
  have hlanguage : survey.languageFindings.filter Finding.isRepetition = [] := by
    rw [List.filter_eq_nil_iff]
    rintro _ hmem
    simp [mem_languageFindings_iff.1 hmem, Finding.isRepetition]
  have hquestions : (survey.questions.flatMap survey.questionFindings).filter
      Finding.isRepetition = [] := by
    rw [List.filter_eq_nil_iff]
    intro finding hmem
    obtain ⟨q, -, hq⟩ := List.mem_flatMap.1 hmem
    simp [isRepetition_of_mem_questionFindings hq]
  rw [findings, List.filter_append, List.filter_append, hrepeated, hlanguage, hquestions,
    List.append_nil, List.append_nil]

/-- The walk collects an id for every question but the first with each id, where an id already seen
has its first question behind it. -/
theorem length_repeatedIds_add (seen : List String) (questions : List Question) :
    (repeatedIds seen questions).length +
        ((questions.map Question.id).toFinset \ seen.toFinset).card = questions.length := by
  induction questions generalizing seen with
  | nil => simp [repeatedIds]
  | cons q rest ih =>
    rw [repeatedIds, List.map_cons, List.toFinset_cons, List.length_cons]
    by_cases hseen : q.id ∈ seen
    · rw [if_pos (by simpa using hseen), Finset.insert_sdiff_of_mem _ (by simpa using hseen),
        List.length_cons, ← ih seen]
      omega
    -- A new id is one more to count here, and no more among those of the rest, since it is seen.
    · rw [if_neg (by simpa using hseen), Finset.insert_sdiff_of_notMem _ (by simpa using hseen),
        ← ih (q.id :: seen), List.toFinset_cons, Finset.sdiff_insert, add_assoc,
        ← Finset.erase_insert_eq_erase, Finset.card_erase_add_one (Finset.mem_insert_self _ _)]

/-! ## Loading and finding -/

/-- Loading a text does what the findings on the survey in it say of repeated ids. -/
structure LoadedAsFound (text : String) (survey : Survey) : Prop where
  /-- The text is refused for a repeated id exactly if a finding is that an id is repeated. -/
  refused_iff : (∃ id, load text = .error (.duplicateId id)) ↔
    ∃ id, .duplicateQuestionId id ∈ survey.findings
  /-- The id it is refused for is that of the first such finding. -/
  first_found : ∀ id, load text = .error (.duplicateId id) ↔
    survey.findings.find? Finding.isRepetition = some (.duplicateQuestionId id)
  /-- The id it is refused for is that of the first question whose id occurred before. -/
  first_repeated : ∀ id, load text = .error (.duplicateId id) ↔ survey.FirstRepeats id
  /-- Without such a finding the survey is loaded. -/
  loaded : (∀ id, .duplicateQuestionId id ∉ survey.findings) → load text = .ok survey
  /-- There are as many such findings as there are more questions than ids. -/
  count : survey.findings.countP Finding.isRepetition + survey.ids.toFinset.card =
    survey.questions.length

/-- The first finding that an id is repeated is of the id at which the walk stops. -/
theorem find?_isRepetition_findings (survey : Survey) :
    survey.findings.find? Finding.isRepetition =
      (firstRepetition? [] survey.questions).map .duplicateQuestionId := by
  rw [← List.head?_filter, filter_isRepetition_findings, List.head?_map, head?_repeatedIds]

/-- That an id is repeated is found exactly of the ids that the walk collects. -/
theorem duplicateQuestionId_mem_findings_iff {id : String} :
    .duplicateQuestionId id ∈ survey.findings ↔ id ∈ repeatedIds [] survey.questions := by
  have hfilter : .duplicateQuestionId id ∈ survey.findings ↔
      .duplicateQuestionId id ∈ survey.findings.filter Finding.isRepetition := by
    simp [Finding.isRepetition]
  rw [hfilter, filter_isRepetition_findings]
  simp

/-- Loading a text in which there is a survey agrees with what is found of repeated ids in the
survey: it is refused for the id of the first such finding, which is that of the first question
whose id occurred before, and loaded if there is none. There are as many such findings as there are
more questions than ids. -/
theorem loadedAsFound_of_ofJson {text : String} {value : Json}
    (hparse : Json.parse? text = some value) (hread : ofJson value = .ok survey) :
    LoadedAsFound text survey where
  refused_iff := by
    -- Both say that the walk that collects finds something, one by its head and one by a member.
    simp only [load_eq_checkIds hparse hread, checkIds_eq_error_iff,
      duplicateQuestionId_mem_findings_iff, ← head?_repeatedIds]
    cases repeatedIds [] survey.questions with
    | nil => simp
    | cons id rest => simp
  first_found id := by
    rw [load_eq_checkIds hparse hread, checkIds_eq_error_iff, find?_isRepetition_findings,
      Option.map_eq_some_iff]
    simp
  first_repeated id := by
    rw [load_eq_checkIds hparse hread, checkIds_eq_error_iff, firstRepetition?_eq_some_iff]
  loaded hnone := by
    simp only [duplicateQuestionId_mem_findings_iff] at hnone
    have hstops : firstRepetition? [] survey.questions = none := by
      rw [← head?_repeatedIds, List.eq_nil_iff_forall_not_mem.2 hnone, List.head?_nil]
    rw [load_eq_checkIds hparse hread, checkIds, hstops]
  count := by
    have hcount := length_repeatedIds_add [] survey.questions
    rw [List.toFinset_nil, Finset.sdiff_empty] at hcount
    rw [List.countP_eq_length_filter, filter_isRepetition_findings, List.length_map, ids, hcount]

/-- A survey that asks on the same thing three times. -/
def repetitiveSurvey : Survey where
  id := "repetitive"
  questions :=
    [{ id := "name", body := .openText {} }, { id := "age", body := .numeric {} },
     { id := "age", body := .openText {} }, { id := "name", body := .openText {} },
     { id := "age", body := .numeric {} }]

/-- The repetitive survey is refused for the age, and three repetitions are found in it. -/
theorem loadedAsFound_of_ofJson_repetitiveSurvey :
    Json.parse? repetitiveSurvey.save = some repetitiveSurvey.toJson ∧
      ofJson repetitiveSurvey.toJson = .ok repetitiveSurvey ∧
      load repetitiveSurvey.save = .error (.duplicateId "age") ∧
      repetitiveSurvey.findings.countP Finding.isRepetition = 3 := by
  have hnumbers : repetitiveSurvey.numbers = [] := rfl
  have hparse : Json.parse? repetitiveSurvey.save = some repetitiveSurvey.toJson :=
    parse?_save (by simp [hnumbers])
  have hread := ofJson_toJson repetitiveSurvey
  have h := loadedAsFound_of_ofJson hparse hread
  refine ⟨hparse, hread, (h.first_found "age").2 (by decide), ?_⟩
  have hcount := h.count
  have hids : repetitiveSurvey.ids.toFinset.card = 2 := by decide
  rw [hids] at hcount
  exact Nat.add_right_cancel hcount

end Survey

end Questionnaire
