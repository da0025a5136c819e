import Questionnaire.Proofs.Visibility.Meaning

/-!
# What order does not matter

Visibility depends on the order in which a survey is written down in one respect only: of the rules
of one question to one effect on one target the last counts. All else may be put in another order.
`Question.Reordered` says that the rules of a question are, such that those of one sort keep their
order among themselves. Then each sort has the same last rule (`Question.Reordered.lastRule?_eq`),
which is all that visibility by the rules looks at, and it looks at all questions alike. So the
visibility of every question is the same (`Visibility.resolve_of_reordered`).
-/

namespace Questionnaire

namespace Question

/-- One question is another with its rules in another order, in which those with one effect on one
target keep their order among themselves. -/
structure Reordered (q r : Question) : Prop where
  /-- The questions differ in their rules at most. -/
  eq_with_rules : r = { q with rules := r.rules }
  /-- The rules are the same. -/
  perm : r.rules.Perm q.rules
  /-- The rules with one effect on one target are in the same order. -/
  filter_eq : ∀ effect target,
    r.rules.filter (fun rule => decide (rule.effect = effect ∧ rule.target = target)) =
      q.rules.filter (fun rule => decide (rule.effect = effect ∧ rule.target = target))

/-- The last rule with an effect on a target is the last of those with that effect on it. -/
theorem lastRule?_eq_getLast? (q : Question) (effect : Rule.Effect) (target : String) :
    q.lastRule? effect target =
      (q.rules.filter fun rule =>
        decide (rule.effect = effect ∧ rule.target = target)).getLast? := by
  rw [lastRule?, ← List.head?_filter, List.filter_reverse, List.head?_reverse]

namespace Reordered

variable {q r : Question}

/-- Reordering rules can be undone by reordering them. -/
theorem symm (h : q.Reordered r) : r.Reordered q where
  eq_with_rules := by rw [h.eq_with_rules]
  perm := h.perm.symm
  filter_eq effect target := (h.filter_eq effect target).symm

/-- Reordered rules belong to the question with the same id. -/
theorem id_eq (h : q.Reordered r) : r.id = q.id := by
  rw [h.eq_with_rules]

/-- Reordered rules hold under the same answers. -/
theorem ruleHolds_eq (h : q.Reordered r) : r.ruleHolds = q.ruleHolds := by
  rw [h.eq_with_rules]
  rfl

/-- Reordering rules leaves the last with an effect on a target. -/
theorem lastRule?_eq (h : q.Reordered r) : r.lastRule? = q.lastRule? := by
  funext effect target
  rw [lastRule?_eq_getLast?, lastRule?_eq_getLast?, h.filter_eq]

end Reordered

end Question

/-- Two lists have the same questions but for the order of the rules of each. -/
def SameButRuleOrder (xs ys : List Question) : Prop :=
  (∀ q ∈ xs, ∃ r ∈ ys, q.Reordered r) ∧ ∀ r ∈ ys, ∃ q ∈ xs, q.Reordered r

namespace SameButRuleOrder

variable {xs ys : List Question}

/-- Of two lists either has the questions of the other. -/
theorem symm (h : SameButRuleOrder xs ys) : SameButRuleOrder ys xs :=
  ⟨fun r hr => (h.2 r hr).imp fun _ hq => ⟨hq.1, hq.2.symm⟩,
    fun q hq => (h.1 q hq).imp fun _ hr => ⟨hr.1, hr.2.symm⟩⟩

/-- Reordering the rules of each question, and the questions, leaves the questions the same. -/
theorem of_perm_map {reorder : Question → Question}
    (hreorder : ∀ q ∈ xs, q.Reordered (reorder q)) (hys : ys.Perm (xs.map reorder)) :
    SameButRuleOrder xs ys := by
  refine ⟨fun q hq => ?_, fun r hr => ?_⟩
  · exact ⟨reorder q, hys.mem_iff.2 (List.mem_map_of_mem hq), hreorder q hq⟩
  · obtain ⟨q, hq, rfl⟩ := List.mem_map.1 (hys.mem_iff.1 hr)
    exact ⟨q, hq, hreorder q hq⟩

/-- A question that is visible by the rules of one list is so by those of the other. -/
theorem declaredVisible {answers : Answers} {id : String} (h : SameButRuleOrder xs ys)
    (hv : DeclaredVisible xs answers id) : DeclaredVisible ys answers id := by
  refine ⟨fun r hr rule hrule => ?_, hv.revealed.imp (fun hnone r hr => ?_) ?_⟩
  · obtain ⟨q, hq, hsame⟩ := h.2 r hr
    rw [hsame.lastRule?_eq] at hrule
    rw [hsame.ruleHolds_eq]
    exact hv.not_hidden q hq rule hrule
  · obtain ⟨q, hq, hsame⟩ := h.2 r hr
    rw [← Question.lastRule?_eq_none_iff, hsame.lastRule?_eq, Question.lastRule?_eq_none_iff]
    exact hnone q hq
  · rintro ⟨q, hq, rule, hrule, hholds⟩
    obtain ⟨r, hr, hsame⟩ := h.1 q hq
    rw [← hsame.lastRule?_eq] at hrule
    rw [← hsame.ruleHolds_eq] at hholds
    exact ⟨r, hr, rule, hrule, hholds⟩

end SameButRuleOrder

/-- Where no two questions share an id, visibility is the same whatever the order of the questions,
and whatever the order of the rules of each, as long as rules of a question with one effect on one
target keep theirs. -/
theorem Visibility.resolve_of_reordered {questions others : List Question}
    {reorder : Question → Question} (hids : (questions.map Question.id).Nodup)
    (hreorder : ∀ q ∈ questions, q.Reordered (reorder q))
    (hothers : others.Perm (questions.map reorder)) (answers : Answers) :
    resolve others answers = resolve questions answers := by
  have hmap : (questions.map reorder).map Question.id = questions.map Question.id := by
    rw [List.map_map]
    exact List.map_congr_left fun q hq => (hreorder q hq).id_eq
  have hperm : (others.map Question.id).Perm (questions.map Question.id) :=
    hmap ▸ hothers.map Question.id
  have hsame : SameButRuleOrder questions others := .of_perm_map hreorder hothers
  refine IdMap.ext_get? fun id => get?_resolve_congr (hperm.nodup_iff.2 hids) hids hperm.mem_iff ?_
  exact ⟨hsame.symm.declaredVisible, hsame.declaredVisible⟩

/-- A question with its first two rules put behind the others. -/
def firstRulesLast (q : Question) : Question :=
  { q with rules := q.rules.drop 2 ++ q.rules.take 2 }

/-- With the questions on pets in the opposite order, and the rule on `owner` before those on
`name`, the answer `cat` still reveals `name` by the last rule on it. -/
theorem resolve_of_reordered_petQuestions :
    (petQuestions.map Question.id).Nodup ∧
      (∀ q ∈ petQuestions, q.Reordered (firstRulesLast q)) ∧
      Visibility.resolve (petQuestions.map firstRulesLast).reverse
          (.ofList [("pet", .text "cat")]) =
        Visibility.resolve petQuestions (.ofList [("pet", .text "cat")]) ∧
      (Visibility.resolve petQuestions (.ofList [("pet", .text "cat")])).get? "name" =
        some true := by
  have hids : (petQuestions.map Question.id).Nodup := by decide
  have hreorder : ∀ q ∈ petQuestions, q.Reordered (firstRulesLast q) := by
    refine fun q hq => ⟨rfl, ?_, fun effect target => ?_⟩
    · exact List.perm_append_comm.trans (.of_eq (List.take_append_drop 2 q.rules))
    · obtain rfl | rfl | rfl : q = petQuestions[0] ∨ q = petQuestions[1] ∨ q = petQuestions[2] := by
        simpa [petQuestions] using hq
      · -- The first two rules of `pet` reveal and the third hides: only one of the parts is left.
        cases effect <;> simp [petQuestions, firstRulesLast, List.filter_cons]
      all_goals rfl
  exact ⟨hids, hreorder,
    Visibility.resolve_of_reordered hids hreorder (List.reverse_perm _) _, by decide⟩

end Questionnaire
