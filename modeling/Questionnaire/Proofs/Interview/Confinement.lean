import Mathlib.Data.Set.Insert
import Questionnaire.Proofs.Interview.Forward

/-!
# What answers change

After each answer visibility is resolved anew, for all questions and by all rules. Yet an answer
changes no more than is its own: the answer to its question, and the visibility of the questions
that rules of its question act on (`respond_confined`).

`ConfinedTo` says this of any two states, given the questions that may be answered between them. A
transition is confined to the question that it records an answer to, if it records one
(`ConfinedTo.transition`), so a history is confined to the questions that are answered in the course
of it (`ConfinedTo.run`). For visibility this rests on the state being coherent: what was resolved
from the answers before is compared with what is resolved from those after, and the two differ only
for targets of rules whose question was answered (`get?_visibility_recorded`).
-/

namespace Questionnaire.Interview

variable {σ : Type}

/-- From one state to another nothing has changed but what answers to the questions with the ids
change. -/
structure ConfinedTo (survey : Survey) (ids : Set String) (i after : Interview σ) : Prop where
  /-- Other ids have the answers that they had. -/
  answers : ∀ id, id ∉ ids → after.answers.get? id = i.answers.get? id
  /-- An id that no rule of these questions acts on has the visibility that it had. -/
  visibility : ∀ id, (∀ q ∈ survey.questions, q.id ∈ ids → ∀ rule ∈ q.rules, rule.target ≠ id) →
    after.visibility.get? id = i.visibility.get? id
  /-- The questions are presented in the order that they were. -/
  order : after.order = i.order

namespace ConfinedTo

variable {survey : Survey} {ids : Set String} {i j after : Interview σ}

/-- Nothing has changed where answers, visibility and order of presentation are the same. -/
theorem of_eq (hanswers : after.answers = i.answers) (hvisibility : after.visibility = i.visibility)
    (horder : after.order = i.order) : ConfinedTo survey ids i after where
  answers _ _ := by rw [hanswers]
  visibility _ _ := by rw [hvisibility]
  order := horder

/-- Changes on the way add up. -/
theorem trans (h : ConfinedTo survey ids i j) (hrest : ConfinedTo survey ids j after) :
    ConfinedTo survey ids i after where
  answers id hid := (hrest.answers id hid).trans (h.answers id hid)
  visibility id hrules := (hrest.visibility id hrules).trans (h.visibility id hrules)
  order := hrest.order.trans h.order

/-- An answer that is recorded changes nothing but what is its own. -/
theorem afterAnswer (hi : Coherent survey i) (hdistinct : survey.DistinctIds) {q : Question}
    (hq : q ∈ survey.questions) (hid : q.id ∈ ids) (position : Nat) (answer : Answer) :
    ConfinedTo survey ids i (i.afterAnswer survey position q answer) where
  answers other hother := by
    have hne : other ≠ q.id := fun heq => hother (heq ▸ hid)
    exact IdMap.get?_insert_of_ne _ hne answer
  visibility _ hrules := get?_visibility_recorded hi hdistinct hq (hrules q hq hid) answer
  order := rfl

/-- An operation changes nothing but what is its own, if it is an answer to one of the questions or
none at all. -/
theorem transition [Source σ] {operation : Operation} {reply : Reply}
    (h : Transition survey i operation after reply) (hi : Coherent survey i)
    (hdistinct : survey.DistinctIds)
    (hanswered : ∀ id answer, operation = .respond id answer → id ∈ ids) :
    ConfinedTo survey ids i after := by
  cases h with
  | answered answer stage question =>
    have hid := hanswered _ answer rfl
    rw [← id_of_question?_eq_some question] at hid
    exact afterAnswer hi hdistinct (Survey.mem_of_question?_eq_some question) hid _ answer
  | refused | movedOn | atEnd | movedBack | atStart | submitted | languageSet
  | optionsPresented => exact of_eq rfl rfl rfl

/-- A history changes nothing but what answers to the questions change that are answered in the
course of it. -/
theorem run [Source σ] (hi : Coherent survey i) (hdistinct : survey.DistinctIds)
    {history : List Operation} (hanswered : ∀ id answer, .respond id answer ∈ history → id ∈ ids) :
    ConfinedTo survey ids i (i.run survey history) := by
  induction history generalizing i with
  | nil => exact of_eq rfl rfl rfl
  | cons operation rest ih =>
    have hstep := step_transition survey i operation
    have hfirst : ConfinedTo survey ids i (i.step survey operation).1 :=
      transition hstep hi hdistinct fun id answer heq =>
        hanswered id answer (heq ▸ List.mem_cons_self)
    exact hfirst.trans <| ih (hi.transition hstep) fun id answer hmem =>
      hanswered id answer (List.mem_cons_of_mem _ hmem)

end ConfinedTo

/-- In every state that a history of operations leads to, an answer that is recorded is the answer
to its question from then on. The answers to all other questions stay, and so does the visibility of
every question that no rule of the one answered acts on; the order of presentation, the languages
and the source of further draws are the same. -/
theorem respond_confined [Source σ] {survey : Survey} {draws : σ} {language : Option String}
    {i after : Interview σ} (hdistinct : survey.DistinctIds)
    (hstart : start survey draws language = .ok i) (history : List Operation) {id : String}
    {answer : Answer} {outcome : Outcome}
    (hrespond : (i.run survey history).respond survey id answer = .ok (after, outcome)) :
    after.answers.get? id = some answer ∧
      ConfinedTo survey {id} (i.run survey history) after ∧
      after.locale = (i.run survey history).locale ∧
      after.draws = (i.run survey history).draws := by
  have hi := (Coherent.start hstart).run history
  obtain ⟨position, q, -, hq, rfl, -⟩ := respond_eq_ok_iff.1 hrespond
  obtain rfl := id_of_question?_eq_some hq
  refine ⟨IdMap.get?_insert_self _ _ _, ?_, rfl, rfl⟩
  exact .afterAnswer hi hdistinct (Survey.mem_of_question?_eq_some hq)
    (Set.mem_singleton q.id) position answer

/-- Having a pet reveals its name, and having a car reveals its plate. -/
def ownerSurvey : Survey where
  id := "owners"
  questions :=
    [{ id := "pet", body := .openText {}, rules := [⟨"name", .reveal, .equals, .text "yes"⟩] },
     { id := "name", body := .openText {} },
     { id := "car", body := .openText {}, rules := [⟨"plate", .reveal, .equals, .text "yes"⟩] },
     { id := "plate", body := .openText {} }]

/-- An answer on cars reveals the plate, and leaves the name of the pet visible and the answer on
pets what it was. -/
theorem respond_confined_ownerSurvey :
    ownerSurvey.DistinctIds ∧ ∃ i after outcome,
      start ownerSurvey (Keystream.ofSeed 0) none = .ok i ∧
      (i.run ownerSurvey [.respond "pet" (.text "yes")]).respond ownerSurvey "car"
        (.text "yes") = .ok (after, outcome) ∧
      after.visibility.get? "plate" = some true ∧ after.visibility.get? "name" = some true ∧
      after.answers.get? "pet" = some (.text "yes") := by
  have hdistinct : ownerSurvey.DistinctIds := by decide
  have hstart : start ownerSurvey (Keystream.ofSeed 0) none = .ok _ := rfl
  obtain ⟨-, hconfined, -, -⟩ :=
    respond_confined hdistinct hstart [.respond "pet" (.text "yes")]
      (show respond ownerSurvey _ "car" (.text "yes") = .ok (_, _) from rfl)
  have hrules : ∀ q ∈ ownerSurvey.questions, q.id ∈ ({"car"} : Set String) →
      ∀ rule ∈ q.rules, rule.target ≠ "name" := by
    simp [ownerSurvey]
  refine ⟨hdistinct, _, _, _, hstart, rfl, rfl, ?_, ?_⟩
  · exact (hconfined.visibility "name" hrules).trans rfl
  · exact (hconfined.answers "pet" (by simp)).trans rfl

end Questionnaire.Interview
