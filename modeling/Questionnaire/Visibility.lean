import Questionnaire.Answer.Basic
import Questionnaire.Question.Basic

/-!
# Visibility

Which questions a respondent sees follows from the answers alone. Every rule is judged by the answer
to its own source; of the verdicts of one source on one target to one effect the last stands. A
question is hidden if a standing verdict hides it, and otherwise visible if no rule would reveal it
or a standing verdict does.

Nothing here can fail: a rule that cannot apply, for want of an answer of the right shape, does not
hold.
-/

namespace Questionnaire

/-! ## Judging rules -/

namespace Rule

/-- Whether the answer is a single value that reads as the operand. -/
def matchesScalar (rule : Rule) (answer : Option Answer) : Bool :=
  match answer.bind Answer.scalarText? with
  | some text => text == rule.operand.asText
  | none => false

/-- Whether the operand is among the options selected. -/
def matchesMember (rule : Rule) (answer : Option Answer) : Bool :=
  match answer.bind Answer.asList? with
  | some selected => selected.contains rule.operand.asText
  | none => false

/-- Whether the answer and the operand are numbers that the comparison relates. -/
def relatesNumbers (rule : Rule) (answer : Option Answer) (related : Number → Number → Bool) :
    Bool :=
  match answer.bind Answer.asNumber?, rule.operand.asNumber? with
  | some left, some right => related left right
  | _, _ => false

/-- Whether the condition of a rule holds for the answer to its source. Questions with a set of
selected options admit conditions of membership only, and all others every condition but those. -/
def holds (source : Kind) (rule : Rule) (answer : Option Answer) : Bool :=
  if source.isMultiSelect then
    match rule.condition with
    | .contains => rule.matchesMember answer
    | .notContains => !rule.matchesMember answer
    | _ => false
  else
    match rule.condition with
    | .equals => rule.matchesScalar answer
    | .notEquals => !rule.matchesScalar answer
    | .greaterThan => rule.relatesNumbers answer fun left right => right < left
    | .lessThan => rule.relatesNumbers answer fun left right => left < right
    | .contains | .notContains => false

end Rule

/-- What became of a rule. -/
structure Verdict where
  /-- The id of the question that has the rule. -/
  source : String
  /-- The id of the question that the rule shows or hides. -/
  target : String
  /-- What the rule does to its target. -/
  effect : Rule.Effect
  /-- Whether its condition held. -/
  holds : Bool
deriving DecidableEq

namespace Verdict

/-- Whether two verdicts are of one source on one target to one effect. -/
def sameMatter (a b : Verdict) : Bool :=
  a.source == b.source && a.target == b.target && decide (a.effect = b.effect)

/-- Whether the verdict hides the question. -/
def hides (id : String) (v : Verdict) : Bool :=
  v.target == id && decide (v.effect = .hide) && v.holds

/-- Whether the verdict is of a rule that would reveal the question. -/
def wouldReveal (id : String) (v : Verdict) : Bool :=
  v.target == id && decide (v.effect = .reveal)

/-- Whether the verdict reveals the question. -/
def reveals (id : String) (v : Verdict) : Bool :=
  v.wouldReveal id && v.holds

/-- The order in which verdicts are listed: by source, then by target, revealing before hiding. -/
def listedBefore (a b : Verdict) : Bool :=
  a.source < b.source || (a.source == b.source &&
    (a.target < b.target || (a.target == b.target &&
      (decide (a.effect = .reveal) || decide (b.effect = .hide)))))

end Verdict

/-- The verdicts on the rules of the questions, in order. -/
def verdicts (questions : List Question) (answers : Answers) : List Verdict :=
  questions.flatMap fun q => q.rules.map fun rule =>
    ⟨q.id, rule.target, rule.effect, rule.holds q.kind (answers.get? q.id)⟩

/-- The verdicts that no later one on the same matter replaces. -/
def standing : List Verdict → List Verdict
  | [] => []
  | v :: rest => if rest.any v.sameMatter then standing rest else v :: standing rest

/-- The standing verdicts in the order in which they are listed. -/
def listedVerdicts (questions : List Question) (answers : Answers) : List Verdict :=
  (standing (verdicts questions answers)).mergeSort Verdict.listedBefore

/-! ## Resolving visibility -/

/-- Whether each question is visible, by question id. -/
abbrev Visibility := IdMap Bool

/-- Whether a question is visible under the standing verdicts. -/
def isVisibleUnder (rulings : List Verdict) (id : String) : Bool :=
  !rulings.any (Verdict.hides id) &&
    (!rulings.any (Verdict.wouldReveal id) || rulings.any (Verdict.reveals id))

namespace Visibility

/-- The visibility of every question under the standing verdicts. -/
def ofVerdicts (questions : List Question) (rulings : List Verdict) : Visibility :=
  .ofList (questions.map fun q => (q.id, isVisibleUnder rulings q.id))

/-- The visibility of every question, given the answers. -/
def resolve (questions : List Question) (answers : Answers) : Visibility :=
  ofVerdicts questions (standing (verdicts questions answers))

/-- Whether a question is visible; one that the map does not know is. -/
def admits (visibility : Visibility) (id : String) : Bool :=
  (visibility.get? id).getD true

end Visibility

end Questionnaire
