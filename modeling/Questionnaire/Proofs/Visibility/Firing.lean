import Questionnaire.Proofs.Number.Value
import Questionnaire.Visibility

/-!
# When rules can hold

A rule that holds for no answer to its source has no effect. Whether some answer makes it hold can
be told from the rule and the kind of its source (`Rule.exists_holds_iff`). Two things can be in the
way. The condition may not apply: sets of selected options admit conditions of membership only, and
all other answers every condition but those. Or a comparison of size may have no number to compare
with, because the operand reads as none or there is no number beyond it (`Rule.operandServes`).
Beyond every finite number there is an infinity on either side.

The kind of the source is in the way of nothing else. In particular a comparison of size holds for a
text that reads as a number, whatever kind of question the text was given to.
-/

namespace Questionnaire

/-! ## Numbers beyond a number -/

namespace Number

/-- Whether there is a greater number. -/
def isExceeded : Number → Bool
  | nan | infinite false => false
  | finite _ | infinite true => true

/-- Whether there is a smaller number. -/
def isUndercut : Number → Bool
  | nan | infinite true => false
  | finite _ | infinite false => true

/-- There is a number greater than any but infinity and NaN. -/
theorem isExceeded_iff {x : Number} : x.isExceeded = true ↔ ∃ y, x < y := by
  constructor
  · intro h
    refine ⟨infinite false, lt_iff.2 ?_⟩
    match x, h with
    | finite x, _ => exact ⟨_, _, rfl, rfl, lt_top_iff_ne_top.2 (WithBotTop.coe_ne_top x.value)⟩
    | infinite true, _ => exact ⟨_, _, rfl, rfl, bot_lt_top⟩
  · rintro ⟨y, hless⟩
    obtain ⟨v, w, hv, -, hvalue⟩ := lt_iff.1 hless
    match x, hv with
    | finite _, _ | infinite true, _ => rfl
    | infinite false, rfl => exact absurd hvalue not_top_lt

/-- Infinity is greater than the greatest finite number. -/
example : finite ⟨false, infiniteRank - 1, by decide⟩ < infinite false := by
  decide

/-- There is a number smaller than any but infinity with a minus sign and NaN. -/
theorem isUndercut_iff {x : Number} : x.isUndercut = true ↔ ∃ y, y < x := by
  constructor
  · intro h
    refine ⟨infinite true, lt_iff.2 ?_⟩
    match x, h with
    | finite x, _ => exact ⟨_, _, rfl, rfl, bot_lt_iff_ne_bot.2 (WithBotTop.coe_ne_bot x.value)⟩
    | infinite false, _ => exact ⟨_, _, rfl, rfl, bot_lt_top⟩
  · rintro ⟨y, hless⟩
    obtain ⟨v, w, -, hw, hvalue⟩ := lt_iff.1 hless
    match x, hw with
    | finite _, _ | infinite false, _ => rfl
    | infinite true, rfl => exact absurd hvalue not_lt_bot

end Number

namespace Rule

/-! ## Comparisons -/

/-- Numbers are compared where the answer and the operand both are or read as one. -/
theorem relatesNumbers_eq_true_iff {rule : Rule} {answer : Option Answer}
    {related : Number → Number → Bool} :
    rule.relatesNumbers answer related = true ↔
      ∃ y x, answer.bind Answer.asNumber? = some y ∧ rule.operand.asNumber? = some x ∧
        related y x = true := by
  unfold relatesNumbers
  cases answer.bind Answer.asNumber? with
  | none => simp
  | some y => cases rule.operand.asNumber? <;> simp

/-- Some answer stands in a relation to the operand when the operand is a number to which some
number does. -/
theorem exists_relatesNumbers_iff {rule : Rule} {related : Number → Number → Bool} :
    (∃ answer, rule.relatesNumbers answer related = true) ↔
      ∃ x, rule.operand.asNumber? = some x ∧ ∃ y, related y x = true := by
  simp only [relatesNumbers_eq_true_iff]
  constructor
  · rintro ⟨answer, y, x, -, hx, hrelated⟩
    exact ⟨x, hx, y, hrelated⟩
  · rintro ⟨x, hx, y, hrelated⟩
    exact ⟨some (.number y), y, x, rfl, hx, hrelated⟩

/-- Some answer is the operand as a text. -/
theorem exists_matchesScalar (rule : Rule) : ∃ answer, rule.matchesScalar answer = true :=
  ⟨some (.text rule.operand.asText), by simp [matchesScalar, Answer.scalarText?]⟩

/-- Some answer has the operand among the options selected. -/
theorem exists_matchesMember (rule : Rule) : ∃ answer, rule.matchesMember answer = true :=
  ⟨some (.list [rule.operand.asText]), by simp [matchesMember, Answer.asList?]⟩

/-! ## Conditions that apply -/

/-- Whether the operand serves the condition. A comparison of size asks that it be a number, or read
as one, and that there be numbers beyond it; any operand serves the other conditions. -/
def operandServes (rule : Rule) : Bool :=
  match rule.condition with
  | .greaterThan => rule.operand.asNumber?.any Number.isExceeded
  | .lessThan => rule.operand.asNumber?.any Number.isUndercut
  | .equals | .notEquals | .contains | .notContains => true

/-- A rule whose condition asks for membership where one answer is given, or the other way round,
holds for no answer. -/
theorem holds_eq_false_of_misapplied {kind : Kind} {rule : Rule}
    (h : rule.condition.isMembership ≠ kind.isMultiSelect) (answer : Option Answer) :
    rule.holds kind answer = false := by
  unfold holds
  cases hkind : kind.isMultiSelect <;> cases hcondition : rule.condition <;>
    simp_all [Condition.isMembership]

/-- Some set of selected options makes a rule of membership hold. -/
theorem exists_holds_of_membership {kind : Kind} {rule : Rule} (hkind : kind.isMultiSelect = true)
    (hrule : rule.condition.isMembership = true) : ∃ answer, rule.holds kind answer = true := by
  cases hcondition : rule.condition with
  | contains =>
    obtain ⟨answer, hmember⟩ := rule.exists_matchesMember
    exact ⟨answer, by simp only [holds, hkind, hcondition, if_true, hmember]⟩
  | notContains =>
    refine ⟨none, ?_⟩
    simp only [holds, hkind, hcondition, if_true]
    rfl
  | equals | notEquals | greaterThan | lessThan =>
    rw [hcondition] at hrule
    cases hrule

/-- Some single answer makes a rule that does not ask for membership hold exactly when the operand
serves its condition. -/
theorem exists_holds_iff_of_single {kind : Kind} {rule : Rule} (hkind : kind.isMultiSelect = false)
    (hrule : rule.condition.isMembership = false) :
    (∃ answer, rule.holds kind answer = true) ↔ rule.operandServes = true := by
  simp only [holds, operandServes, hkind, Bool.false_eq_true, if_false]
  cases hcondition : rule.condition with
  | equals => exact iff_of_true rule.exists_matchesScalar rfl
  | notEquals => exact iff_of_true ⟨none, rfl⟩ rfl
  | greaterThan =>
    simp only [exists_relatesNumbers_iff, Option.any_eq_true, decide_eq_true_iff,
      Number.isExceeded_iff]
  | lessThan =>
    simp only [exists_relatesNumbers_iff, Option.any_eq_true, decide_eq_true_iff,
      Number.isUndercut_iff]
  | contains | notContains =>
    rw [hcondition] at hrule
    cases hrule

/-- Any operand serves a condition of membership. -/
theorem operandServes_of_membership {rule : Rule} (h : rule.condition.isMembership = true) :
    rule.operandServes = true := by
  unfold operandServes
  cases hcondition : rule.condition <;> simp_all [Condition.isMembership]

/-- Some answer makes a rule hold exactly when its condition applies to its source and its operand
serves the condition. -/
theorem exists_holds_iff (kind : Kind) (rule : Rule) :
    (∃ answer, rule.holds kind answer = true) ↔
      rule.condition.isMembership = kind.isMultiSelect ∧ rule.operandServes = true := by
  by_cases happlies : rule.condition.isMembership = kind.isMultiSelect
  case neg =>
    refine iff_of_false ?_ fun h => happlies h.1
    rintro ⟨answer, hholds⟩
    rw [holds_eq_false_of_misapplied happlies] at hholds
    cases hholds
  case pos =>
    rw [and_iff_right happlies]
    cases hkind : kind.isMultiSelect with
    | false => exact exists_holds_iff_of_single hkind (happlies.trans hkind)
    | true =>
      have hrule : rule.condition.isMembership = true := happlies.trans hkind
      exact iff_of_true (exists_holds_of_membership hkind hrule) (operandServes_of_membership hrule)

end Rule

end Questionnaire
