import Mathlib.Data.List.Nodup
import Questionnaire.Proofs.Survey.Findings

/-!
# Every problem is found once

A finding names ids, which does not tell where its problem is in a survey whose questions share
them. Here a problem has a site: the settings, a place among the questions, or a place among the
rules of a question. What counts as a problem at a site is said without looking for it
(`Survey.HasProblem`). The findings of a survey are those problems, each reported once for its site,
and nothing else (`Survey.findings_exact`).

The report with sites (`Survey.report`) goes through the survey as the findings do. That it has each
problem is read off the parts that it is made of, one lemma a part. That it has none twice follows
from the sites, as each part of it is at a place of its own (`nodup_flatMap_zipIdx`).
-/

namespace Questionnaire

/-! ## Lists by place -/

/-- A list made place by place has nothing twice if each part has not and all in a part can be told
from its place. -/
theorem nodup_flatMap_zipIdx {α β : Type} {xs : List α} {f : α × ℕ → List β} (key : β → ℕ)
    (hkey : ∀ entry ∈ xs.zipIdx, ∀ b ∈ f entry, key b = entry.2)
    (hf : ∀ entry ∈ xs.zipIdx, (f entry).Nodup) : (xs.zipIdx.flatMap f).Nodup := by
  have hplaces : xs.zipIdx.Pairwise fun a b => a.2 ≠ b.2 := by
    rw [← List.pairwise_map, List.zipIdx_map_snd]
    exact List.nodup_range'
  refine List.nodup_flatMap.2 ⟨hf, hplaces.imp_of_mem fun ha hb hne b hfirst hsecond => ?_⟩
  exact hne ((hkey _ ha b hfirst).symm.trans (hkey _ hb b hsecond))

/-- Where the places do not matter, going through a list with its places is going through it. -/
theorem flatMap_zipIdx_fst {α β : Type} (xs : List α) (f : α → List β) :
    (xs.zipIdx.flatMap fun entry => f entry.1) = xs.flatMap f := by
  rw [← List.flatMap_map, List.zipIdx_map_fst]

namespace Survey

/-! ## Problems -/

/-- Where in a survey a problem is. -/
inductive Site where
  /-- In the settings. -/
  | settings
  /-- At the question in a place. -/
  | question (place : ℕ)
  /-- At the rule in a place among those of the question in a place. -/
  | rule (place number : ℕ)
deriving DecidableEq

/-- What is wrong at a site of a survey. -/
inductive HasProblem (survey : Survey) : Site → Finding → Prop where
  /-- A question has the id of an earlier one. -/
  | duplicateQuestionId {place earlier : ℕ} {q other : Question}
    (question : survey.questions[place]? = some q) (before : earlier < place)
    (other_question : survey.questions[earlier]? = some other) (same_id : other.id = q.id) :
    HasProblem survey (.question place) (.duplicateQuestionId q.id)
  /-- The default language is not among the languages. -/
  | defaultLanguageNotEnabled
    (disabled : survey.settings.defaultLanguage ∉ survey.settings.languages) :
    HasProblem survey .settings (.defaultLanguageNotEnabled survey.settings.defaultLanguage)
  /-- A grid has no rows or no columns. -/
  | emptyMatrix {place : ℕ} {q : Question} {grid : Grid}
    (question : survey.questions[place]? = some q) (body : q.body = .matrix grid)
    (empty : grid.rows = [] ∨ grid.columns = []) :
    HasProblem survey (.question place) (.emptyMatrix q.id)
  /-- A question that offers options has none. -/
  | noOptions {place : ℕ} {q : Question} (question : survey.questions[place]? = some q)
    (kind : q.kind = .multipleChoice ∨ q.kind = .dropdown ∨ q.kind = .checkboxGroup ∨
      q.kind = .ranking)
    (empty : q.body.options = []) : HasProblem survey (.question place) (.noOptions q.id)
  /-- A rule points at an id that no question has. -/
  | unknownTarget {place number : ℕ} {q : Question} {rule : Rule}
    (question : survey.questions[place]? = some q) (has_rule : q.rules[number]? = some rule)
    (unknown : ∀ other ∈ survey.questions, other.id ≠ rule.target) :
    HasProblem survey (.rule place number) (.unknownTarget q.id rule.target)
  /-- A rule points at its own question. -/
  | selfTarget {place number : ℕ} {q : Question} {rule : Rule}
    (question : survey.questions[place]? = some q) (has_rule : q.rules[number]? = some rule)
    (own : rule.target = q.id) : HasProblem survey (.rule place number) (.selfTarget q.id)
  /-- A rule asks for membership where one answer is given, or for something else where options are
  selected. -/
  | conditionNotApplicable {place number : ℕ} {q : Question} {rule : Rule}
    (question : survey.questions[place]? = some q) (has_rule : q.rules[number]? = some rule)
    (misapplied : ¬ ((rule.condition = .contains ∨ rule.condition = .notContains) ↔
      q.kind = .checkboxGroup)) :
    HasProblem survey (.rule place number) (.conditionNotApplicable q.id q.kind rule.condition)
  /-- A rule compares numbers where answers are neither numbers nor selections. -/
  | numericComparisonOnText {place number : ℕ} {q : Question} {rule : Rule}
    (question : survey.questions[place]? = some q) (has_rule : q.rules[number]? = some rule)
    (numeric : rule.condition = .greaterThan ∨ rule.condition = .lessThan)
    (kind : q.kind ≠ .checkboxGroup ∧ q.kind ≠ .numeric ∧ q.kind ≠ .likertScale) :
    HasProblem survey (.rule place number) (.numericComparisonOnText q.id q.kind)

/-! ## The report with sites -/

/-- The questions with the id of an earlier one, by their places. -/
def repetitions (survey : Survey) : List (Site × Finding) :=
  (survey.questions.zipIdx.filter fun entry =>
      entry.1.id ∈ (survey.questions.take entry.2).map Question.id).map fun entry =>
    (.question entry.2, .duplicateQuestionId entry.1.id)

/-- The findings on a rule of a question, by the places of the two. -/
def ruleReport (survey : Survey) (q : Question) (place : ℕ) (entry : Rule × ℕ) :
    List (Site × Finding) :=
  (entry.1.targetFindings survey.ids q ++ entry.1.conditionFindings q).map
    (Site.rule place entry.2, ·)

/-- The findings on a question and its rules, by its place. -/
def questionReport (survey : Survey) (entry : Question × ℕ) : List (Site × Finding) :=
  entry.1.choiceFindings.map (Site.question entry.2, ·) ++
    entry.1.rules.zipIdx.flatMap (survey.ruleReport entry.1 entry.2)

/-- The findings of a survey by their sites. -/
def report (survey : Survey) : List (Site × Finding) :=
  survey.repetitions ++ survey.languageFindings.map (Site.settings, ·) ++
    survey.questions.zipIdx.flatMap survey.questionReport

/-! ## The report is that of the findings -/

/-- The ids found to be repeated are those of the questions that have an id seen before, or the id
of an earlier question. -/
theorem repeatedIds_eq_map_filter (seen : List String) (questions : List Question) :
    repeatedIds seen questions =
      (questions.zipIdx.filter fun entry =>
          entry.1.id ∈ seen ++ (questions.take entry.2).map Question.id).map fun entry =>
        entry.1.id := by
  induction questions generalizing seen with
  | nil => rfl
  | cons q rest ih =>
    -- In what follows the first question, its id counts as seen, whether or not it was before.
    have hrest : ∀ seen' : List String, (∀ ids id, id ∈ seen' ++ ids ↔ id ∈ seen ++ q.id :: ids) →
        repeatedIds seen' rest = ((rest.zipIdx 1).filter fun entry =>
            entry.1.id ∈ seen ++ ((q :: rest).take entry.2).map Question.id).map fun entry =>
          entry.1.id := by
      intro seen' hseen'
      rw [ih seen', List.zipIdx_succ, List.filter_map, List.map_map]
      refine congrArg _ (List.filter_congr fun entry _ => ?_)
      exact decide_eq_decide.2 (hseen' _ entry.1.id)
    rw [repeatedIds, List.zipIdx_cons]
    by_cases hseen : q.id ∈ seen
    · have hknown : ∀ id, id = q.id → id ∈ seen := fun id heq => heq ▸ hseen
      rw [if_pos (by simpa using hseen), List.filter_cons_of_pos (by simpa using hseen),
        List.map_cons, hrest seen fun ids id => ?_]
      simp only [List.mem_append, List.mem_cons]
      have := hknown id
      tauto
    · rw [if_neg (by simpa using hseen), List.filter_cons_of_neg (by simpa using hseen)]
      exact hrest (q.id :: seen) fun ids id => by simp [or_left_comm]

/-- Without the sites the report is the findings. -/
theorem map_snd_report (survey : Survey) : survey.report.map Prod.snd = survey.findings := by
  have hrepeated : survey.repetitions.map Prod.snd =
      (repeatedIds [] survey.questions).map .duplicateQuestionId := by
    rw [repeatedIds_eq_map_filter, repetitions, List.map_map, List.map_map]
    rfl
  have hlabelled : ∀ (site : Site) (findings : List Finding),
      (findings.map (site, ·)).map Prod.snd = findings := fun site findings => by
    rw [List.map_map]
    exact List.map_id _
  have hquestion : ∀ entry : Question × ℕ,
      (survey.questionReport entry).map Prod.snd = survey.questionFindings entry.1 := by
    intro entry
    simp only [questionReport, ruleReport, List.map_append, List.map_flatMap, hlabelled]
    exact congrArg _ (flatMap_zipIdx_fst entry.1.rules fun rule =>
      rule.targetFindings survey.ids entry.1 ++ rule.conditionFindings entry.1)
  rw [report, List.map_append, List.map_append, hrepeated, hlabelled, List.map_flatMap]
  simp only [hquestion]
  exact congrArg _ (flatMap_zipIdx_fst survey.questions survey.questionFindings)

/-! ## The report has every problem -/

variable {survey : Survey} {q : Question} {rule : Rule} {site : Site} {finding : Finding}

/-- One of the first so many questions has an id if one at an earlier place has it. -/
theorem exists_mem_take_iff {questions : List Question} {place : ℕ} {id : String} :
    (∃ other ∈ questions.take place, other.id = id) ↔
      ∃ earlier < place, ∃ other, questions[earlier]? = some other ∧ other.id = id := by
  constructor
  · rintro ⟨other, hother, hid⟩
    obtain ⟨earlier, hlt, rfl⟩ := List.mem_take_iff_getElem.1 hother
    exact ⟨earlier, (Nat.lt_min.1 hlt).1, _, List.getElem?_eq_getElem (Nat.lt_min.1 hlt).2, hid⟩
  · rintro ⟨earlier, hlt, other, hother, hid⟩
    exact ⟨other, List.mem_of_getElem? (by rw [List.getElem?_take_of_lt hlt, hother]), hid⟩

/-- The repetitions are the questions with the id of an earlier one. -/
theorem mem_repetitions_iff :
    (site, finding) ∈ survey.repetitions ↔
      ∃ q place, survey.questions[place]? = some q ∧
        (∃ earlier < place, ∃ other, survey.questions[earlier]? = some other ∧ other.id = q.id) ∧
        site = .question place ∧ finding = .duplicateQuestionId q.id := by
  simp only [repetitions, List.mem_map, List.mem_filter, List.mem_zipIdx_iff_getElem?, Prod.exists,
    decide_eq_true_eq, exists_mem_take_iff, Prod.mk.injEq, and_assoc, @eq_comm _ site,
    @eq_comm _ finding]

/-- Of what a question offers it is reported that a grid lacks rows or columns, or that there are no
options. -/
theorem mem_choiceFindings_iff :
    finding ∈ q.choiceFindings ↔
      (∃ grid, q.body = .matrix grid ∧ (grid.rows = [] ∨ grid.columns = []) ∧
          finding = .emptyMatrix q.id) ∨
        ((q.kind = .multipleChoice ∨ q.kind = .dropdown ∨ q.kind = .checkboxGroup ∨
            q.kind = .ranking) ∧ q.body.options = [] ∧ finding = .noOptions q.id) := by
  unfold Question.choiceFindings Question.kind
  cases q.body <;> simp [Body.kind, Kind.hasOptions, Body.options]

/-- Of the languages it is reported that the default one is not among them. -/
theorem mem_languageFindings_iff :
    finding ∈ survey.languageFindings ↔
      survey.settings.defaultLanguage ∉ survey.settings.languages ∧
        finding = .defaultLanguageNotEnabled survey.settings.defaultLanguage := by
  unfold languageFindings
  by_cases h : survey.settings.defaultLanguage ∈ survey.settings.languages <;> simp [h]

/-- The findings on rules are those on each rule of each question. -/
theorem mem_ruleReport_iff {place : ℕ} {entry : Rule × ℕ} :
    (site, finding) ∈ survey.ruleReport q place entry ↔
      site = .rule place entry.2 ∧
        (finding ∈ entry.1.targetFindings survey.ids q ∨
          finding ∈ entry.1.conditionFindings q) := by
  simp only [ruleReport, List.mem_map, List.mem_append, Prod.mk.injEq]
  constructor
  · rintro ⟨found, hfound, rfl, rfl⟩
    exact ⟨rfl, hfound⟩
  · rintro ⟨rfl, hfound⟩
    exact ⟨finding, hfound, rfl, rfl⟩

/-- At the place of a question the report has what is found of the question and of its rules. -/
theorem mem_questionReport_iff {place : ℕ} :
    (site, finding) ∈ survey.questionReport (q, place) ↔
      (site = .question place ∧ finding ∈ q.choiceFindings) ∨
        ∃ rule number, q.rules[number]? = some rule ∧ site = .rule place number ∧
          (finding ∈ rule.targetFindings survey.ids q ∨ finding ∈ rule.conditionFindings q) := by
  simp only [questionReport, List.mem_append, List.mem_flatMap, mem_ruleReport_iff,
    List.mem_zipIdx_iff_getElem?, Prod.exists]
  simp [eq_comm, and_comm]

/-- The report has the repetitions, what is found of the languages, and what is found at the place
of each question. -/
theorem mem_report_iff :
    (site, finding) ∈ survey.report ↔
      (site, finding) ∈ survey.repetitions ∨
        (site = .settings ∧ finding ∈ survey.languageFindings) ∨
        ∃ q place, survey.questions[place]? = some q ∧
          (site, finding) ∈ survey.questionReport (q, place) := by
  simp only [report, List.mem_append, List.mem_flatMap, List.mem_zipIdx_iff_getElem?, Prod.exists,
    or_assoc]
  simp [eq_comm, and_comm]

/-- A condition and a kind do not go together when just one of them is about selections. -/
theorem isMembership_ne_isMultiSelect_iff {condition : Rule.Condition} {kind : Kind} :
    condition.isMembership ≠ kind.isMultiSelect ↔
      ¬ ((condition = .contains ∨ condition = .notContains) ↔ kind = .checkboxGroup) := by
  cases condition <;> cases kind <;> decide

/-- A condition on numbers goes together with a kind, but is on answers that are none, when the kind
is neither of selections nor of numbers. -/
theorem isNumeric_and_not_isNumericLike_iff {condition : Rule.Condition} {kind : Kind} :
    condition.isMembership = kind.isMultiSelect ∧ condition.isNumeric = true ∧
        kind.isNumericLike = false ↔
      (condition = .greaterThan ∨ condition = .lessThan) ∧
        kind ≠ .checkboxGroup ∧ kind ≠ .numeric ∧ kind ≠ .likertScale := by
  cases condition <;> cases kind <;> decide

/-- An id is none of a survey's when no question has it. -/
theorem not_mem_ids_iff {id : String} : id ∉ survey.ids ↔ ∀ q ∈ survey.questions, q.id ≠ id := by
  simp [ids]

/-- The findings on a rule are its problems. -/
theorem mem_ruleFindings_iff {place number : ℕ} (hq : survey.questions[place]? = some q)
    (hrule : q.rules[number]? = some rule) :
    (finding ∈ rule.targetFindings survey.ids q ∨ finding ∈ rule.conditionFindings q) ↔
      survey.HasProblem (.rule place number) finding := by
  rw [Rule.mem_targetFindings_iff, Rule.mem_conditionFindings_iff, not_mem_ids_iff,
    isMembership_ne_isMultiSelect_iff]
  constructor
  · rintro ((⟨hunknown, rfl⟩ | ⟨-, hown, rfl⟩) | ⟨hmisapplied, rfl⟩ |
      ⟨happlies, hnumeric, hkind, rfl⟩)
    · exact .unknownTarget hq hrule hunknown
    · exact .selfTarget hq hrule hown
    · exact .conditionNotApplicable hq hrule hmisapplied
    · obtain ⟨hcondition, hother⟩ :=
        isNumeric_and_not_isNumericLike_iff.1 ⟨happlies, hnumeric, hkind⟩
      exact .numericComparisonOnText hq hrule hcondition hother
  · -- The question and the rule at the site are the given ones.
    intro h
    cases h with
    | unknownTarget question has_rule hunknown =>
      obtain rfl := Option.some.inj (hq.symm.trans question)
      obtain rfl := Option.some.inj (hrule.symm.trans has_rule)
      exact .inl (.inl ⟨hunknown, rfl⟩)
    | selfTarget question has_rule hown =>
      obtain rfl := Option.some.inj (hq.symm.trans question)
      obtain rfl := Option.some.inj (hrule.symm.trans has_rule)
      exact .inl (.inr ⟨List.mem_map.2 ⟨q, List.mem_of_getElem? hq, hown.symm⟩, hown, rfl⟩)
    | conditionNotApplicable question has_rule hmisapplied =>
      obtain rfl := Option.some.inj (hq.symm.trans question)
      obtain rfl := Option.some.inj (hrule.symm.trans has_rule)
      exact .inr (.inl ⟨hmisapplied, rfl⟩)
    | numericComparisonOnText question has_rule hcondition hkind =>
      obtain rfl := Option.some.inj (hq.symm.trans question)
      obtain rfl := Option.some.inj (hrule.symm.trans has_rule)
      obtain ⟨happlies, hnumeric, hother⟩ :=
        isNumeric_and_not_isNumericLike_iff.2 ⟨hcondition, hkind⟩
      exact .inr (.inr ⟨happlies, hnumeric, hother, rfl⟩)

/-- A problem at a rule is at a rule that there is. -/
theorem HasProblem.exists_rule {place number : ℕ}
    (h : survey.HasProblem (.rule place number) finding) :
    ∃ q rule, survey.questions[place]? = some q ∧ q.rules[number]? = some rule := by
  cases h with
  | unknownTarget hq hrule | selfTarget hq hrule | conditionNotApplicable hq hrule
  | numericComparisonOnText hq hrule => exact ⟨_, _, hq, hrule⟩

/-- A problem is at a site just if the report has it there. -/
theorem mem_report_iff_hasProblem :
    (site, finding) ∈ survey.report ↔ survey.HasProblem site finding := by
  simp only [mem_report_iff, mem_repetitions_iff, mem_questionReport_iff]
  constructor
  · rintro (⟨q, place, hq, ⟨earlier, hlt, other, hother, hid⟩, rfl, rfl⟩ | ⟨rfl, hlanguage⟩ |
      ⟨q, place, hq, ⟨rfl, hchoice⟩ | ⟨rule, number, hrule, rfl, hfound⟩⟩)
    · exact .duplicateQuestionId hq hlt hother hid
    · obtain ⟨hdisabled, rfl⟩ := mem_languageFindings_iff.1 hlanguage
      exact .defaultLanguageNotEnabled hdisabled
    · obtain ⟨grid, hbody, hempty, rfl⟩ | ⟨hkind, hempty, rfl⟩ := mem_choiceFindings_iff.1 hchoice
      · exact .emptyMatrix hq hbody hempty
      · exact .noOptions hq hkind hempty
    · exact (mem_ruleFindings_iff hq hrule).1 hfound
  · intro h
    cases site with
    | settings =>
      cases h with
      | defaultLanguageNotEnabled hdisabled =>
        exact .inr (.inl ⟨rfl, mem_languageFindings_iff.2 ⟨hdisabled, rfl⟩⟩)
    | question place =>
      cases h with
      | duplicateQuestionId hq hlt hother hid =>
        exact .inl ⟨_, _, hq, ⟨_, hlt, _, hother, hid⟩, rfl, rfl⟩
      | emptyMatrix hq hbody hempty =>
        have hchoice := mem_choiceFindings_iff.2 (.inl ⟨_, hbody, hempty, rfl⟩)
        exact .inr (.inr ⟨_, _, hq, .inl ⟨rfl, hchoice⟩⟩)
      | noOptions hq hkind hempty =>
        have hchoice := mem_choiceFindings_iff.2 (.inr ⟨hkind, hempty, rfl⟩)
        exact .inr (.inr ⟨_, _, hq, .inl ⟨rfl, hchoice⟩⟩)
    | rule place number =>
      obtain ⟨q, rule, hq, hrule⟩ := h.exists_rule
      have hfound := (mem_ruleFindings_iff hq hrule).2 h
      exact .inr (.inr ⟨q, place, hq, .inr ⟨rule, number, hrule, rfl, hfound⟩⟩)

/-! ## The report has no problem twice -/

/-- The place of the question that a site is at. -/
def Site.place : Site → ℕ
  | .settings => 0
  | .question place | .rule place _ => place

/-- The place of the rule that a site is at. -/
def Site.number : Site → ℕ
  | .settings | .question _ => 0
  | .rule _ number => number

/-- On a rule nothing is found twice. -/
theorem nodup_ruleFindings (ids : List String) (q : Question) (rule : Rule) :
    (rule.targetFindings ids q ++ rule.conditionFindings q).Nodup := by
  unfold Rule.targetFindings Rule.conditionFindings
  split_ifs <;> simp

/-- Of what a question offers nothing is found twice. -/
theorem nodup_choiceFindings (q : Question) : q.choiceFindings.Nodup := by
  unfold Question.choiceFindings
  split <;> split_ifs <;> simp

/-- At one site, findings that are listed once are reported once. -/
theorem nodup_map_site {findings : List Finding} (h : findings.Nodup) (site : Site) :
    (findings.map (site, ·)).Nodup :=
  h.map fun _ _ heq => (Prod.mk.inj heq).2

/-- No question is reported twice as a repetition. -/
theorem nodup_repetitions (survey : Survey) : survey.repetitions.Nodup := by
  have hplaces : (survey.questions.zipIdx.map Prod.snd).Nodup := by
    rw [List.zipIdx_map_snd]
    exact List.nodup_range'
  refine List.Nodup.of_map (fun entry => entry.1.place) ?_
  rw [repetitions, List.map_map]
  exact hplaces.sublist (List.filter_sublist.map _)

/-- On a question nothing is reported twice. -/
theorem nodup_questionReport (survey : Survey) (entry : Question × ℕ) :
    (survey.questionReport entry).Nodup := by
  have hrules : (entry.1.rules.zipIdx.flatMap (survey.ruleReport entry.1 entry.2)).Nodup := by
    refine nodup_flatMap_zipIdx (fun found => found.1.number) (fun rule _ found hfound => ?_)
      fun rule _ => nodup_map_site (nodup_ruleFindings _ _ _) _
    obtain ⟨hsite, -⟩ := mem_ruleReport_iff.1 hfound
    rw [hsite, Site.number]
  refine List.nodup_append.2 ⟨nodup_map_site (nodup_choiceFindings _) _, hrules, ?_⟩
  rintro ⟨site, finding⟩ hquestion _ hrule rfl
  obtain ⟨found, -, heq⟩ := List.mem_map.1 hquestion
  obtain ⟨rule, -, hfound⟩ := List.mem_flatMap.1 hrule
  obtain ⟨hsite, -⟩ := mem_ruleReport_iff.1 hfound
  rw [hsite] at heq
  cases heq

/-- What is reported at the place of a question is at that place, and is not that its id was there
before. -/
theorem place_of_mem_questionReport {place : ℕ}
    (h : (site, finding) ∈ survey.questionReport (q, place)) :
    site.place = place ∧ site ≠ .settings ∧ (site, finding) ∉ survey.repetitions := by
  obtain ⟨rfl, hchoice⟩ | ⟨rule, number, -, rfl, -⟩ := mem_questionReport_iff.1 h
  · refine ⟨rfl, nofun, fun hrepeated => ?_⟩
    obtain ⟨other, _, -, -, -, rfl⟩ := mem_repetitions_iff.1 hrepeated
    simp [mem_choiceFindings_iff] at hchoice
  · refine ⟨rfl, nofun, fun hrepeated => ?_⟩
    obtain ⟨_, _, -, -, hsite, -⟩ := mem_repetitions_iff.1 hrepeated
    cases hsite

/-- Nothing is reported twice. -/
theorem nodup_report (survey : Survey) : survey.report.Nodup := by
  have hlanguage : (survey.languageFindings.map (Site.settings, ·)).Nodup := by
    refine nodup_map_site ?_ _
    unfold languageFindings
    split_ifs <;> simp
  have hquestions : (survey.questions.zipIdx.flatMap survey.questionReport).Nodup :=
    nodup_flatMap_zipIdx (fun found => found.1.place)
      (fun _ _ _ hfound => (place_of_mem_questionReport hfound).1)
      fun entry _ => nodup_questionReport survey entry
  refine List.nodup_append.2 ⟨List.nodup_append.2 ⟨nodup_repetitions survey, hlanguage, ?_⟩,
    hquestions, ?_⟩
  · rintro ⟨site, finding⟩ hrepeated _ hsettings rfl
    obtain ⟨_, _, -, -, hplace, -⟩ := mem_repetitions_iff.1 hrepeated
    obtain ⟨_, -, heq⟩ := List.mem_map.1 hsettings
    rw [hplace] at heq
    cases heq
  · rintro ⟨site, finding⟩ hfirst _ hlast rfl
    obtain ⟨entry, -, hfound⟩ := List.mem_flatMap.1 hlast
    obtain ⟨-, hsite, hfresh⟩ := place_of_mem_questionReport hfound
    rcases List.mem_append.1 hfirst with hrepeated | hsettings
    · exact hfresh hrepeated
    · obtain ⟨_, -, heq⟩ := List.mem_map.1 hsettings
      exact hsite (Prod.mk.inj heq).1.symm

/-- The findings of a survey are its problems and nothing else: they can be reported by sites so
that each problem is reported once for the site it is at. A survey without problems is one without
findings. -/
theorem findings_exact (survey : Survey) :
    (∃ report : List (Site × Finding), report.Nodup ∧
        (∀ site finding, (site, finding) ∈ report ↔ survey.HasProblem site finding) ∧
        report.map Prod.snd = survey.findings) ∧
      (survey.findings = [] ↔ ∀ site finding, ¬ survey.HasProblem site finding) := by
  refine ⟨⟨survey.report, nodup_report survey, fun _ _ => mem_report_iff_hasProblem,
    map_snd_report survey⟩, ?_⟩
  rw [← map_snd_report, List.map_eq_nil_iff, List.eq_nil_iff_forall_not_mem, Prod.forall]
  simp only [mem_report_iff_hasProblem]

end Survey

end Questionnaire
