import Mathlib.Logic.Basic
import Questionnaire.Proofs.IdMap
import Questionnaire.Visibility

/-!
# What visibility means

`Visibility.resolve` judges every rule, lets later verdicts replace earlier ones, and reads the
visibility of each question off the verdicts that stand. Here the same is said without verdicts, by
the rules themselves: of the rules of one question to one effect on one target the last counts
(`Question.lastRule?`), and a question is visible when no such rule hides it and, if some would
reveal it, one does (`DeclaredVisible`). `isVisibleUnder_standing_iff` proves the two equal where no
two questions share an id; it is what every other statement on visibility is read off.

The proof follows a verdict through the list. It stands when no later one is on the same matter
(`standing_append`). Verdicts of different questions are never on the same matter, so those that
stand are those that stand among the verdicts of their own question (`standing_verdicts`), and there
they are the verdicts on the last rules (`mem_standing_map_iff`).
-/

namespace Questionnaire

/-! ## The rules that count -/

namespace Question

/-- The last of the rules of a question with the effect on the target. -/
def lastRule? (q : Question) (effect : Rule.Effect) (target : String) : Option Rule :=
  q.rules.reverse.find? fun rule => decide (rule.effect = effect ∧ rule.target = target)

/-- Whether a rule of the question holds under the answers. -/
def ruleHolds (q : Question) (answers : Answers) (rule : Rule) : Bool :=
  rule.holds q.kind (answers.get? q.id)

/-- The verdict on a rule of the question under the answers. -/
def verdict (q : Question) (answers : Answers) (rule : Rule) : Verdict :=
  ⟨q.id, rule.target, rule.effect, q.ruleHolds answers rule⟩

/-- A question has no last rule with an effect on a target when it has no rule with that effect on
it. -/
theorem lastRule?_eq_none_iff {q : Question} {effect : Rule.Effect} {target : String} :
    q.lastRule? effect target = none ↔
      ∀ rule ∈ q.rules, rule.effect = effect → rule.target ≠ target := by
  unfold lastRule?
  simp [List.find?_eq_none]

/-- The last rule with an effect on a target is a rule of the question with that effect on it. -/
theorem lastRule?_eq_some {q : Question} {effect : Rule.Effect} {target : String} {rule : Rule}
    (h : q.lastRule? effect target = some rule) :
    rule ∈ q.rules ∧ rule.effect = effect ∧ rule.target = target := by
  unfold lastRule? at h
  refine ⟨List.mem_reverse.1 (List.mem_of_find?_eq_some h), ?_⟩
  simpa using List.find?_some h

end Question

/-- A question is visible by the rules: of the last rules that hide it none holds, and if there are
rules that reveal it, a last one of them holds. -/
structure DeclaredVisible (questions : List Question) (answers : Answers) (id : String) : Prop where
  /-- No question has a last rule that hides it and holds. -/
  not_hidden : ∀ q ∈ questions, ∀ rule, q.lastRule? .hide id = some rule →
    q.ruleHolds answers rule = false
  /-- No question has a rule that reveals it, or the last one of some question holds. -/
  revealed : (∀ q ∈ questions, ∀ rule ∈ q.rules, rule.effect = .reveal → rule.target ≠ id) ∨
    ∃ q ∈ questions, ∃ rule, q.lastRule? .reveal id = some rule ∧ q.ruleHolds answers rule = true

/-! ## Verdicts that stand -/

/-- Two verdicts are on the same matter when source, target and effect agree. -/
theorem Verdict.sameMatter_iff {v w : Verdict} :
    v.sameMatter w = true ↔ v.source = w.source ∧ v.target = w.target ∧ v.effect = w.effect := by
  simp [Verdict.sameMatter, and_assoc]

/-- Verdicts that stand are among those given. -/
theorem mem_of_mem_standing {v : Verdict} {vs : List Verdict} (h : v ∈ standing vs) : v ∈ vs := by
  induction vs with
  | nil => exact h
  | cons w rest ih =>
    simp only [standing] at h
    split at h
    · exact List.mem_cons_of_mem _ (ih h)
    · rcases List.mem_cons.1 h with rfl | h
      · exact List.mem_cons_self
      · exact List.mem_cons_of_mem _ (ih h)

/-- Of two lists of verdicts, those of the first stand on whose matter the second has none, and
those of the second as they do without the first. -/
theorem standing_append (xs ys : List Verdict) :
    standing (xs ++ ys) =
      (standing xs).filter (fun v => !ys.any v.sameMatter) ++ standing ys := by
  induction xs with
  | nil => rfl
  | cons w rest ih =>
    simp only [List.cons_append, standing, List.any_append]
    -- The head falls to a later verdict of its own list, or of the second, or it stands.
    by_cases hrest : rest.any w.sameMatter = true
    · simp [hrest, ih]
    · by_cases hys : ys.any w.sameMatter = true
      · simp [hrest, hys, ih]
      · simp [hrest, hys, ih]

/-- The source of a verdict on a question's rules is the question. -/
theorem source_of_mem_map {q : Question} {answers : Answers} {rules : List Rule} {v : Verdict}
    (h : v ∈ rules.map (q.verdict answers)) : v.source = q.id := by
  obtain ⟨rule, -, rfl⟩ := List.mem_map.1 h
  rfl

/-- Where no two questions share an id, the verdicts that stand are those that stand among the
verdicts of their own question. -/
theorem standing_verdicts {questions : List Question} (h : (questions.map Question.id).Nodup)
    (answers : Answers) :
    standing (verdicts questions answers) =
      questions.flatMap fun q => standing (q.rules.map (q.verdict answers)) := by
  induction questions with
  | nil => rfl
  | cons q rest ih =>
    obtain ⟨hq, hrest⟩ := List.nodup_cons.1 h
    have hsplit : verdicts (q :: rest) answers =
        q.rules.map (q.verdict answers) ++ verdicts rest answers := rfl
    rw [hsplit, standing_append, ih hrest, List.flatMap_cons]
    congr 1
    refine List.filter_eq_self.2 fun v hv => ?_
    -- A verdict of another question is on another matter, since its source is another.
    have hother : ∀ w ∈ verdicts rest answers, v.sameMatter w = false := fun w hw => by
      obtain ⟨other, hother, hw⟩ := List.mem_flatMap.1 hw
      refine Bool.eq_false_iff.2 fun hsame => hq (List.mem_map.2 ⟨other, hother, ?_⟩)
      rw [← source_of_mem_map (mem_of_mem_standing hv), (Verdict.sameMatter_iff.1 hsame).1]
      exact (source_of_mem_map hw).symm
    simpa using hother

/-- A verdict stands when it is the last on its matter. -/
theorem mem_standing_iff {v : Verdict} {vs : List Verdict} :
    v ∈ standing vs ↔ vs.reverse.find? v.sameMatter = some v := by
  induction vs with
  | nil => simp [standing]
  | cons w rest ih =>
    have hself : v.sameMatter v = true := Verdict.sameMatter_iff.2 ⟨rfl, rfl, rfl⟩
    -- In the list read from its end, the head comes last.
    have hhead : (rest.reverse.find? v.sameMatter = none ∧ [w].find? v.sameMatter = some v) ↔
        v = w ∧ ¬ rest.any w.sameMatter = true := by
      by_cases hvw : v = w
      · subst hvw
        simp [hself, List.find?_eq_none]
      · simp [hvw, List.find?_singleton, Ne.symm hvw]
    rw [List.reverse_cons, List.find?_append, Option.or_eq_some_iff, ← ih, hhead]
    by_cases hrest : rest.any w.sameMatter = true
    · simp [standing, hrest]
    · simp [standing, hrest, or_comm]

/-- Among the verdicts of one question, those stand that are on a last rule. -/
theorem mem_standing_map_iff {q : Question} {answers : Answers} {v : Verdict} :
    v ∈ standing (q.rules.map (q.verdict answers)) ↔
      ∃ rule, q.lastRule? v.effect v.target = some rule ∧ v = q.verdict answers rule := by
  rw [mem_standing_iff, ← List.map_reverse, List.find?_map, Option.map_eq_some_iff]
  by_cases hsource : v.source = q.id
  · have hmatter : v.sameMatter ∘ q.verdict answers =
        fun rule => decide (rule.effect = v.effect ∧ rule.target = v.target) := by
      funext rule
      rw [Bool.eq_iff_iff, Function.comp, Verdict.sameMatter_iff, decide_eq_true_iff]
      exact ⟨fun ⟨_, htarget, heffect⟩ => ⟨heffect.symm, htarget.symm⟩,
        fun ⟨heffect, htarget⟩ => ⟨hsource, htarget.symm, heffect.symm⟩⟩
    rw [hmatter]
    exact exists_congr fun rule => and_congr_right fun _ => eq_comm
  · -- A verdict with another source is none of the question's.
    constructor
    · rintro ⟨rule, -, rfl⟩
      exact absurd rfl hsource
    · rintro ⟨rule, -, rfl⟩
      exact absurd rfl hsource

/-- Where no two questions share an id, the verdicts that stand are those on the last rules of the
questions. -/
theorem mem_standing_verdicts_iff {questions : List Question}
    (h : (questions.map Question.id).Nodup) {answers : Answers} {v : Verdict} :
    v ∈ standing (verdicts questions answers) ↔
      ∃ q ∈ questions, ∃ rule, q.lastRule? v.effect v.target = some rule ∧
        v = q.verdict answers rule := by
  rw [standing_verdicts h, List.mem_flatMap]
  exact exists_congr fun q => and_congr_right fun _ => mem_standing_map_iff

/-- A verdict stands on an effect on a target, as holding or not, exactly when some question has a
last rule for it that does or does not hold. -/
theorem exists_standing_iff {questions : List Question} (h : (questions.map Question.id).Nodup)
    (answers : Answers) {effect : Rule.Effect} {id : String} {p : Bool → Prop} :
    (∃ v ∈ standing (verdicts questions answers), v.target = id ∧ v.effect = effect ∧ p v.holds) ↔
      ∃ q ∈ questions, ∃ rule, q.lastRule? effect id = some rule ∧
        p (q.ruleHolds answers rule) := by
  constructor
  · rintro ⟨v, hv, rfl, rfl, hp⟩
    obtain ⟨q, hq, rule, hrule, hverdict⟩ := (mem_standing_verdicts_iff h).1 hv
    rw [hverdict] at hp
    exact ⟨q, hq, rule, hrule, hp⟩
  · rintro ⟨q, hq, rule, hrule, hp⟩
    obtain ⟨-, heffect, htarget⟩ := Question.lastRule?_eq_some hrule
    refine ⟨q.verdict answers rule, (mem_standing_verdicts_iff h).2 ⟨q, hq, rule, ?_, rfl⟩,
      htarget, heffect, hp⟩
    rw [← hrule, ← heffect, ← htarget]
    rfl

/-! ## Visibility by the rules -/

/-- Where no two questions share an id, a question is visible under the standing verdicts exactly
when it is by the rules. -/
theorem isVisibleUnder_standing_iff {questions : List Question}
    (h : (questions.map Question.id).Nodup) (answers : Answers) (id : String) :
    isVisibleUnder (standing (verdicts questions answers)) id = true ↔
      DeclaredVisible questions answers id := by
  -- Each of the three tests on the verdicts that stand is one on the last rules.
  have hhides : (standing (verdicts questions answers)).any (Verdict.hides id) = true ↔
      ∃ q ∈ questions, ∃ rule, q.lastRule? .hide id = some rule ∧
        q.ruleHolds answers rule = true := by
    rw [← exists_standing_iff h answers (p := fun holds => holds = true), List.any_eq_true]
    simp [Verdict.hides, and_assoc]
  have hwould : (standing (verdicts questions answers)).any (Verdict.wouldReveal id) = true ↔
      ∃ q ∈ questions, ∃ rule, q.lastRule? .reveal id = some rule ∧ True := by
    rw [← exists_standing_iff h answers (p := fun _ => True), List.any_eq_true]
    simp [Verdict.wouldReveal]
  have hreveals : (standing (verdicts questions answers)).any (Verdict.reveals id) = true ↔
      ∃ q ∈ questions, ∃ rule, q.lastRule? .reveal id = some rule ∧
        q.ruleHolds answers rule = true := by
    rw [← exists_standing_iff h answers (p := fun holds => holds = true), List.any_eq_true]
    simp [Verdict.reveals, Verdict.wouldReveal, and_assoc]
  rw [isVisibleUnder, Bool.and_eq_true, Bool.or_eq_true, Bool.not_eq_true', Bool.not_eq_true',
    ← Bool.not_eq_true, ← Bool.not_eq_true, hhides, hwould, hreveals]
  constructor
  · rintro ⟨hhidden, hrevealed⟩
    refine ⟨fun q hq rule hrule => ?_, hrevealed.imp_left fun hnone q hq => ?_⟩
    · exact Bool.eq_false_iff.2 fun hholds => hhidden ⟨q, hq, rule, hrule, hholds⟩
    · refine Question.lastRule?_eq_none_iff.1 (Option.eq_none_iff_forall_not_mem.2 ?_)
      exact fun rule hrule => hnone ⟨q, hq, rule, hrule, trivial⟩
  · rintro ⟨hhidden, hrevealed⟩
    refine ⟨?_, hrevealed.imp_left fun hnone => ?_⟩
    · rintro ⟨q, hq, rule, hrule, hholds⟩
      simp [hhidden q hq rule hrule] at hholds
    · rintro ⟨q, hq, rule, hrule, -⟩
      obtain ⟨hmem, heffect, htarget⟩ := Question.lastRule?_eq_some hrule
      exact hnone q hq rule hmem heffect htarget

namespace Visibility

/-- What is resolved for an id: whether it is visible under the standing verdicts, if a question has
it, and else nothing. -/
theorem get?_resolve (questions : List Question) (answers : Answers) (id : String) :
    (resolve questions answers).get? id =
      if id ∈ questions.map Question.id then
        some (isVisibleUnder (standing (verdicts questions answers)) id)
      else none :=
  IdMap.get?_ofList_map questions Question.id (isVisibleUnder _) id

/-- The ids with a visibility are those of the questions. -/
theorem mem_ids_resolve {questions : List Question} {answers : Answers} {id : String} :
    id ∈ (resolve questions answers).ids ↔ id ∈ questions.map Question.id := by
  rw [IdMap.mem_ids_iff, get?_resolve]
  split <;> simp_all

/-- Two questionnaires with the same ids resolve to the same visibility of an id if it is visible by
the rules of the one exactly when it is by those of the other. -/
theorem get?_resolve_congr {xs ys : List Question} {answers others : Answers} {id : String}
    (hx : (xs.map Question.id).Nodup) (hy : (ys.map Question.id).Nodup)
    (hids : id ∈ xs.map Question.id ↔ id ∈ ys.map Question.id)
    (h : DeclaredVisible xs answers id ↔ DeclaredVisible ys others id) :
    (resolve xs answers).get? id = (resolve ys others).get? id := by
  have hbool : isVisibleUnder (standing (verdicts xs answers)) id =
      isVisibleUnder (standing (verdicts ys others)) id := by
    rw [Bool.eq_iff_iff, isVisibleUnder_standing_iff hx, isVisibleUnder_standing_iff hy, h]
  simp only [get?_resolve, hids, hbool]

end Visibility

/-! ## What does not matter -/

/-- A question is visible by the rules under other answers too, if they differ only for questions
without a rule on it. -/
theorem DeclaredVisible.of_answers {questions : List Question} {answers others : Answers}
    {id : String} (h : ∀ q ∈ questions, (∃ rule ∈ q.rules, rule.target = id) →
      others.get? q.id = answers.get? q.id)
    (hv : DeclaredVisible questions answers id) : DeclaredVisible questions others id := by
  -- The question of a last rule on the target has a rule on it, so its answer is the same.
  have hsame : ∀ q ∈ questions, ∀ effect rule, q.lastRule? effect id = some rule →
      q.ruleHolds others rule = q.ruleHolds answers rule := fun q hq effect rule hrule => by
    obtain ⟨hmem, -, htarget⟩ := Question.lastRule?_eq_some hrule
    unfold Question.ruleHolds
    rw [h q hq ⟨rule, hmem, htarget⟩]
  refine ⟨fun q hq rule hrule => ?_, hv.revealed.imp_right ?_⟩
  · rw [hsame q hq _ rule hrule]
    exact hv.not_hidden q hq rule hrule
  · rintro ⟨q, hq, rule, hrule, hholds⟩
    exact ⟨q, hq, rule, hrule, by rw [hsame q hq _ rule hrule, hholds]⟩

/-- Where no two questions share an id, answers that differ only for questions without a rule on an
id resolve to the same visibility of that id. -/
theorem Visibility.get?_resolve_of_answers {questions : List Question}
    (hids : (questions.map Question.id).Nodup) {answers others : Answers} {id : String}
    (h : ∀ q ∈ questions, (∃ rule ∈ q.rules, rule.target = id) →
      others.get? q.id = answers.get? q.id) :
    (resolve questions others).get? id = (resolve questions answers).get? id :=
  get?_resolve_congr hids hids Iff.rfl
    ⟨.of_answers fun q hq hrule => (h q hq hrule).symm, .of_answers h⟩

/-- The question with those of its rules alone that are on one of the ids. -/
def Question.restrictRules (ids : List String) (q : Question) : Question :=
  { q with rules := q.rules.filter fun rule => ids.contains rule.target }

/-- Leaving out rules on other targets does not change what the last rule on a target is. -/
theorem Question.lastRule?_restrictRules {ids : List String} {target : String} (h : target ∈ ids)
    (q : Question) (effect : Rule.Effect) :
    (q.restrictRules ids).lastRule? effect target = q.lastRule? effect target := by
  unfold lastRule? restrictRules
  rw [← List.filter_reverse, List.find?_filter]
  congr 1
  funext rule
  by_cases htarget : rule.target = target
  · simp [htarget, h]
  · simp [htarget]

/-- Whether an id is visible by the rules depends on the rules on it alone. -/
theorem declaredVisible_restrictRules_iff {questions : List Question} {answers : Answers}
    {ids : List String} {id : String} (h : id ∈ ids) :
    DeclaredVisible (questions.map (Question.restrictRules ids)) answers id ↔
      DeclaredVisible questions answers id := by
  have hlast := fun (q : Question) => q.lastRule?_restrictRules h
  have hholds : ∀ q : Question, (q.restrictRules ids).ruleHolds answers = q.ruleHolds answers :=
    fun _ => rfl
  have hnone : ∀ q : Question,
      (∀ rule ∈ (q.restrictRules ids).rules, rule.effect = .reveal → rule.target ≠ id) ↔
        ∀ rule ∈ q.rules, rule.effect = .reveal → rule.target ≠ id := fun q => by
    rw [← Question.lastRule?_eq_none_iff, ← Question.lastRule?_eq_none_iff, hlast]
  have hexists : (∃ q ∈ questions.map (Question.restrictRules ids), ∃ rule,
      q.lastRule? .reveal id = some rule ∧ q.ruleHolds answers rule = true) ↔
        ∃ q ∈ questions, ∃ rule, q.lastRule? .reveal id = some rule ∧
          q.ruleHolds answers rule = true := by
    simp only [List.mem_map, exists_exists_and_eq_and, hlast, hholds]
  constructor
  · rintro ⟨hhidden, hrevealed⟩
    simp only [List.forall_mem_map, hlast, hholds, hnone, hexists] at hhidden hrevealed
    exact ⟨hhidden, hrevealed⟩
  · rintro ⟨hhidden, hrevealed⟩
    refine ⟨?_, ?_⟩
    · simpa only [List.forall_mem_map, hlast, hholds] using hhidden
    · simpa only [List.forall_mem_map, hnone, hexists] using hrevealed

/-- Rules on ids that no question has do not matter. -/
theorem Visibility.resolve_restrictRules {questions : List Question}
    (h : (questions.map Question.id).Nodup) (answers : Answers) :
    resolve (questions.map (Question.restrictRules (questions.map Question.id))) answers =
      resolve questions answers := by
  have hids : (questions.map (Question.restrictRules (questions.map Question.id))).map
      Question.id = questions.map Question.id := by
    rw [List.map_map]
    rfl
  refine IdMap.ext_get? fun id => ?_
  by_cases hid : id ∈ questions.map Question.id
  · exact get?_resolve_congr (by rw [hids]; exact h) h (by rw [hids])
      (declaredVisible_restrictRules_iff hid)
  · rw [get?_resolve, get?_resolve, hids, if_neg hid, if_neg hid]

/-! ## The meaning of the resolved map -/

/-- Where no two questions share an id, the resolved map has the ids of the questions, a question is
visible exactly when it is by the rules, and rules on ids that no question has do not matter. -/
theorem Visibility.resolve_meaning {questions : List Question}
    (h : (questions.map Question.id).Nodup) (answers : Answers) :
    (∀ id, id ∈ (resolve questions answers).ids ↔ id ∈ questions.map Question.id) ∧
      (∀ target ∈ questions, (resolve questions answers).get? target.id = some true ↔
        DeclaredVisible questions answers target.id) ∧
      resolve (questions.map (Question.restrictRules (questions.map Question.id))) answers =
        resolve questions answers := by
  refine ⟨fun id => mem_ids_resolve, fun target htarget => ?_, resolve_restrictRules h answers⟩
  rw [get?_resolve, if_pos (List.mem_map.2 ⟨target, htarget, rfl⟩), Option.some_inj,
    isVisibleUnder_standing_iff h]

/-- Two rules of `pet` would reveal `name`, and a rule of `shy` would hide it; `pet` also has a rule
on an id that no question has. -/
def petQuestions : List Question :=
  [{ id := "pet", body := .multipleChoice {}, rules :=
      [⟨"name", .reveal, .equals, .text "dog"⟩, ⟨"name", .reveal, .equals, .text "cat"⟩,
       ⟨"owner", .hide, .notEquals, .text "dog"⟩] },
   { id := "shy", body := .openText {}, rules := [⟨"name", .hide, .equals, .text "yes"⟩] },
   { id := "name", body := .openText {} }]

/-- The answer `cat` reveals `name` by the last rule of `pet`, and nothing hides it. -/
theorem resolve_meaning_petQuestions :
    (petQuestions.map Question.id).Nodup ∧
      (Visibility.resolve petQuestions (.ofList [("pet", .text "cat")])).get? "name" = some true ∧
      DeclaredVisible petQuestions (.ofList [("pet", .text "cat")]) "name" := by
  have hids : (petQuestions.map Question.id).Nodup := by decide
  refine ⟨hids, by decide, ?_⟩
  exact ((Visibility.resolve_meaning hids _).2.1 ⟨"name", .empty, .empty, false, .openText {}, []⟩
    (by decide)).1 (by decide)

end Questionnaire
