import Questionnaire.Proofs.Visibility.Firing
import Questionnaire.Survey.Findings

/-!
# What findings say of rules

A rule of a question is *inert* when it can do nothing: it points at no question of the survey, or
no answer makes it hold. Among the findings two say that a rule is inert, `unknownTarget` and
`conditionNotApplicable`, and they are reported of every rule of that sort. What they leave out is
the operand. A comparison of size is inert if its operand is no number, or one that no other is
beyond, and this is reported nowhere, so a survey without findings may have inert rules
(`not_forall_holds_of_clean`); all others of its rules can hold (`exists_holds_iff_of_clean`).

The other two findings on rules are no sign that a rule is inert. A rule on its own question hides
it like any other, and a comparison of size holds for a text that reads as a number
(`not_forall_inert_of_reported`). Which rules are inert is told by the first two findings and the
operand alone (`inert_iff_reported`).
-/

namespace Questionnaire

/-! ## Findings on one rule -/

namespace Rule

variable {ids : List String} {q : Question} {rule : Rule} {finding : Finding}

/-- Of what a rule points at it is reported that no question has the id, or that it is the id of its
own question. -/
theorem mem_targetFindings_iff :
    finding ∈ rule.targetFindings ids q ↔
      (rule.target ∉ ids ∧ finding = .unknownTarget q.id rule.target) ∨
        (rule.target ∈ ids ∧ rule.target = q.id ∧ finding = .selfTarget q.id) := by
  unfold targetFindings
  by_cases hknown : rule.target ∈ ids
  · by_cases hself : rule.target = q.id <;> simp_all
  · simp [hknown]

/-- Of what a rule compares it is reported that its condition does not apply to its source, or else
that it compares numbers where answers are none. -/
theorem mem_conditionFindings_iff :
    finding ∈ rule.conditionFindings q ↔
      (rule.condition.isMembership ≠ q.kind.isMultiSelect ∧
          finding = .conditionNotApplicable q.id q.kind rule.condition) ∨
        (rule.condition.isMembership = q.kind.isMultiSelect ∧ rule.condition.isNumeric = true ∧
          q.kind.isNumericLike = false ∧ finding = .numericComparisonOnText q.id q.kind) := by
  unfold conditionFindings
  by_cases happlies : rule.condition.isMembership = q.kind.isMultiSelect
  · by_cases hnumeric : rule.condition.isNumeric = true ∧ q.kind.isNumericLike = false <;>
      simp_all [and_assoc]
  · simp [happlies]

end Rule

/-! ## Findings on the rules of a survey -/

/-- Whether a finding is on a rule. -/
def Finding.isOnRule : Finding → Bool
  | .unknownTarget .. | .selfTarget .. | .conditionNotApplicable .. | .numericComparisonOnText .. =>
    true
  | .duplicateQuestionId .. | .noOptions .. | .emptyMatrix .. | .defaultLanguageNotEnabled .. =>
    false

namespace Survey

variable {survey : Survey} {q : Question} {rule : Rule}

/-- What is found of the options and the grid of a question is not on a rule. -/
theorem isOnRule_of_mem_choiceFindings {finding : Finding} (h : finding ∈ q.choiceFindings) :
    finding.isOnRule = false := by
  unfold Question.choiceFindings at h
  split at h <;> split at h <;> simp_all [Finding.isOnRule]

/-- What is found of the languages is not on a rule. -/
theorem isOnRule_of_mem_languageFindings {finding : Finding}
    (h : finding ∈ survey.languageFindings) : finding.isOnRule = false := by
  unfold languageFindings at h
  split at h <;> simp_all [Finding.isOnRule]

/-- The findings on rules are those on what the rules point at and on what they compare. -/
theorem mem_findings_iff_of_isOnRule {finding : Finding} (h : finding.isOnRule = true) :
    finding ∈ survey.findings ↔
      ∃ q ∈ survey.questions, ∃ rule ∈ q.rules,
        finding ∈ rule.targetFindings survey.ids q ∨ finding ∈ rule.conditionFindings q := by
  have hrepeated : finding ∉ (repeatedIds [] survey.questions).map .duplicateQuestionId := by
    intro hmem
    obtain ⟨id, -, rfl⟩ := List.mem_map.1 hmem
    cases h
  have hlanguage : finding ∉ survey.languageFindings := fun hmem => by
    rw [isOnRule_of_mem_languageFindings hmem] at h
    cases h
  have hchoice : ∀ q : Question, finding ∉ q.choiceFindings := fun q hmem => by
    rw [isOnRule_of_mem_choiceFindings hmem] at h
    cases h
  simp only [findings, questionFindings, List.mem_append, List.mem_flatMap, hrepeated, hlanguage,
    hchoice, false_or]

/-- An unknown target is reported of a rule of the survey exactly when no question has the id it
points at. -/
theorem unknownTarget_mem_findings_iff (hq : q ∈ survey.questions) (hrule : rule ∈ q.rules) :
    .unknownTarget q.id rule.target ∈ survey.findings ↔ rule.target ∉ survey.ids := by
  rw [mem_findings_iff_of_isOnRule rfl]
  simp only [Rule.mem_targetFindings_iff, Rule.mem_conditionFindings_iff,
    Finding.unknownTarget.injEq, reduceCtorEq, and_false, or_false]
  constructor
  · rintro ⟨other, -, rule', -, hunknown, -, htarget⟩
    rwa [htarget]
  · intro hunknown
    exact ⟨q, hq, rule, hrule, hunknown, rfl, rfl⟩

/-- A condition that does not apply is reported of a rule of the survey exactly when it asks for
membership where one answer is given, or the other way round. -/
theorem conditionNotApplicable_mem_findings_iff (hq : q ∈ survey.questions)
    (hrule : rule ∈ q.rules) :
    .conditionNotApplicable q.id q.kind rule.condition ∈ survey.findings ↔
      rule.condition.isMembership ≠ q.kind.isMultiSelect := by
  rw [mem_findings_iff_of_isOnRule rfl]
  simp only [Rule.mem_targetFindings_iff, Rule.mem_conditionFindings_iff,
    Finding.conditionNotApplicable.injEq, reduceCtorEq, and_false, or_false, false_or]
  constructor
  · rintro ⟨other, -, rule', -, hmisapplied, -, hkind, hcondition⟩
    rwa [hkind, hcondition]
  · intro hmisapplied
    exact ⟨q, hq, rule, hrule, hmisapplied, rfl, rfl, rfl⟩

/-! ## Surveys without findings -/

/-- In a survey without findings some answer makes a rule hold exactly when the operand serves the
condition, which no finding looks at. -/
theorem exists_holds_iff_of_clean (hclean : survey.findings = []) (hq : q ∈ survey.questions)
    (hrule : rule ∈ q.rules) :
    (∃ answer, rule.holds q.kind answer = true) ↔ rule.operandServes = true := by
  have happlies : rule.condition.isMembership = q.kind.isMultiSelect := by
    refine Decidable.byContradiction fun hmisapplied => ?_
    have hfound := (conditionNotApplicable_mem_findings_iff hq hrule).2 hmisapplied
    rw [hclean] at hfound
    cases hfound
  rw [Rule.exists_holds_iff, and_iff_right happlies]

/-- A rule that asks for the job of people beyond an age, the age as a text. -/
def ageRule (age : String) : Rule :=
  ⟨"job", .reveal, .greaterThan, .text age⟩

/-- The question with the rule on the age. -/
def ageQuestion (age : String) : Question :=
  { id := "age", body := .numeric {}, rules := [ageRule age] }

/-- A survey on jobs, with the rule on the age. -/
def jobSurvey (age : String) : Survey where
  id := "jobs"
  questions := [ageQuestion age, { id := "job", body := .openText {} }]

/-- Nothing is found in the survey on jobs from the age of `17` on, and some answer makes its rule
hold. -/
theorem exists_holds_iff_of_clean_jobSurvey :
    (jobSurvey "17").findings = [] ∧ ageQuestion "17" ∈ (jobSurvey "17").questions ∧
      ageRule "17" ∈ (ageQuestion "17").rules ∧
      ∃ answer, (ageRule "17").holds .numeric answer = true := by
  have hclean : (jobSurvey "17").findings = [] := by decide
  have hq : ageQuestion "17" ∈ (jobSurvey "17").questions := List.mem_cons_self
  have hrule : ageRule "17" ∈ (ageQuestion "17").rules := List.mem_cons_self
  exact ⟨hclean, hq, hrule, (exists_holds_iff_of_clean hclean hq hrule).2 (by decide)⟩

/-- A survey without findings may have a rule that no answer makes hold. Nothing is found in the
survey on jobs from the age of `ten` on, but that is no number. -/
theorem not_forall_holds_of_clean :
    ¬ ∀ survey : Survey, survey.findings = [] → ∀ q ∈ survey.questions, ∀ rule ∈ q.rules,
      ∃ answer, rule.holds q.kind answer = true := by
  intro h
  have hclean : (jobSurvey "ten").findings = [] := by decide
  have hholds : ∃ answer, (ageRule "ten").holds .numeric answer = true :=
    h (jobSurvey "ten") hclean (ageQuestion "ten") List.mem_cons_self _ List.mem_cons_self
  have hserves : (ageRule "ten").operandServes = true :=
    (((ageRule "ten").exists_holds_iff .numeric).1 hholds).2
  exact absurd hserves (by decide)

/-! ## Inert rules -/

/-- A rule of a question is inert when no question has the id it points at, or no answer makes it
hold. -/
def Inert (survey : Survey) (q : Question) (rule : Rule) : Prop :=
  rule.target ∉ survey.ids ∨ ∀ answer, rule.holds q.kind answer = false

/-- A rule of a survey is inert exactly when an unknown target or a condition that does not apply is
reported of it, or its operand does not serve its condition. That it is on its own question, or
compares numbers where answers are none, does not make it so. -/
theorem inert_iff_reported (hq : q ∈ survey.questions) (hrule : rule ∈ q.rules) :
    survey.Inert q rule ↔
      .unknownTarget q.id rule.target ∈ survey.findings ∨
        .conditionNotApplicable q.id q.kind rule.condition ∈ survey.findings ∨
        rule.operandServes = false := by
  have hnever : (∀ answer, rule.holds q.kind answer = false) ↔
      ¬ ∃ answer, rule.holds q.kind answer = true := by simp
  rw [unknownTarget_mem_findings_iff hq hrule, conditionNotApplicable_mem_findings_iff hq hrule,
    Inert, hnever, Rule.exists_holds_iff, not_and_or, Bool.not_eq_true]

/-- A rule that hides the question on a number when its answer is `0`. -/
def hideSelf : Rule :=
  ⟨"number", .hide, .equals, .text "0"⟩

/-- A rule that asks for a reason when the number is greater than `3`. -/
def askReason : Rule :=
  ⟨"reason", .reveal, .greaterThan, .text "3"⟩

/-- A question on a number that is answered by a text. -/
def numberQuestion : Question :=
  { id := "number", body := .openText {}, rules := [hideSelf, askReason] }

/-- A survey on a number and the reason for it. -/
def reasonSurvey : Survey where
  id := "reasons"
  questions := [numberQuestion, { id := "reason", body := .openText {} }]

/-- The rule that hides its own question is reported, and it is not inert. -/
theorem inert_iff_reported_reasonSurvey :
    numberQuestion ∈ reasonSurvey.questions ∧ hideSelf ∈ numberQuestion.rules ∧
      .selfTarget "number" ∈ reasonSurvey.findings ∧
      ¬ reasonSurvey.Inert numberQuestion hideSelf := by
  have hq : numberQuestion ∈ reasonSurvey.questions := List.mem_cons_self
  have hrule : hideSelf ∈ numberQuestion.rules := List.mem_cons_self
  refine ⟨hq, hrule, by decide, ?_⟩
  rw [inert_iff_reported hq hrule]
  decide

/-- A rule of which something is reported need not be inert. Of the rule that compares the number,
given as a text, it is reported that answers to its question are no numbers, but it holds for the
text `5`. -/
theorem not_forall_inert_of_reported :
    ¬ ∀ survey : Survey, ∀ q ∈ survey.questions, ∀ rule ∈ q.rules,
      rule.targetFindings survey.ids q ++ rule.conditionFindings q ≠ [] →
        survey.Inert q rule := by
  intro h
  have hreported : askReason.targetFindings reasonSurvey.ids numberQuestion ++
      askReason.conditionFindings numberQuestion =
        [.numericComparisonOnText "number" .openText] := by decide
  have hinert : reasonSurvey.Inert numberQuestion askReason :=
    h reasonSurvey numberQuestion List.mem_cons_self askReason (by decide) (by simp [hreported])
  have hknown : askReason.target ∈ reasonSurvey.ids := by decide
  have hholds : askReason.holds numberQuestion.kind (some (.text "5")) = true := by decide
  rcases hinert with hunknown | hnever
  · exact hunknown hknown
  · rw [hnever] at hholds
    cases hholds

end Survey

end Questionnaire
