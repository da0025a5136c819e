import Questionnaire.Proofs.Shuffle.Tiles

/-!
# Shuffles are permutations

A shuffle exchanges items and so neither loses nor repeats one, whatever numbers are drawn:
`arrange_perm` holds of every list of draws, out of bounds or too short ones included. Groups are
shuffled each for itself, and the groups of questions, read one after the other, are all places in
authored order (`flatten_questionGroups`). So the order in which questions are presented is always a
permutation of their places (`presentationOrder_perm`), and the options that a question presents are
a permutation of its options (`Question.presentedOptions_perm`).
-/

namespace Questionnaire

variable {α σ : Type}

/-! ## Arranging -/

/-- Exchanging two items permutes the list. -/
theorem exchange_perm (xs : List α) (i j : Nat) : (exchange xs i j).Perm xs := by
  unfold exchange
  split
  next a b hi hj =>
    obtain ⟨hilt, rfl⟩ := List.getElem?_eq_some_iff.1 hi
    obtain ⟨hjlt, rfl⟩ := List.getElem?_eq_some_iff.1 hj
    exact List.set_set_perm hilt hjlt
  next => exact .refl xs

/-- Exchanges one after the other permute the list. -/
theorem arrangeFrom_perm (draws : List Nat) (last : Nat) (xs : List α) :
    (arrangeFrom last draws xs).Perm xs := by
  induction draws generalizing last xs with
  | nil => exact .refl xs
  | cons drawn rest ih =>
    exact (ih (last - 1) (exchange xs last drawn)).trans (exchange_perm xs last drawn)

/-- Arranging a list by any draws permutes it. -/
theorem arrange_perm (draws : List Nat) (xs : List α) : (arrange draws xs).Perm xs :=
  arrangeFrom_perm draws (xs.length - 1) xs

/-- Arranging groups each for itself permutes the list of all their items. -/
theorem arrangeGroups_perm (draws : List Nat) (groups : List (List α)) :
    (arrangeGroups draws groups).Perm groups.flatten := by
  induction groups generalizing draws with
  | nil => exact .refl []
  | cons group rest ih =>
    rw [arrangeGroups, List.flatten_cons]
    exact (arrange_perm _ group).append (ih _)

/-- Groups in random order hold the items of the groups. -/
theorem shuffleGroups_perm [Source σ] (groups : List (List α)) (state : σ) :
    (shuffleGroups groups state).1.Perm groups.flatten :=
  arrangeGroups_perm _ groups

/-- A shuffled list holds the items of the list. -/
theorem shuffle_perm [Source σ] (xs : List α) (state : σ) : (shuffle xs state).1.Perm xs :=
  arrange_perm _ xs

/-! ## The order of presentation -/

/-- The groups of questions, read one after the other, are all places in authored order. -/
theorem flatten_questionGroups (questions : List Question) (respectSections : Bool) :
    (questionGroups questions respectSections).flatten = List.range questions.length := by
  unfold questionGroups
  split
  · rw [(tiles_sections _ _).flatten_range', Nat.sub_zero, List.range_eq_range']
  · simp

/-- The order of presentation has each place of a question once. -/
theorem presentationOrder_perm [Source σ] (questions : List Question)
    (randomize respectSections : Bool) (state : σ) :
    (presentationOrder questions randomize respectSections state).1.Perm
      (List.range questions.length) := by
  unfold presentationOrder
  split
  · rw [← flatten_questionGroups questions respectSections]
    exact shuffleGroups_perm _ state
  · exact .refl _

/-! ## Options -/

/-- A question presents each of its options once. -/
theorem Question.presentedOptions_perm [Source σ] (q : Question) (state : σ) :
    (q.presentedOptions state).1.Perm q.body.options := by
  unfold Question.presentedOptions
  split
  · exact shuffle_perm _ state
  · exact .refl _

/-- Options that are not shuffled are presented in authored order, and nothing is drawn. -/
theorem Question.presentedOptions_of_fixed [Source σ] {q : Question}
    (h : q.body.randomizesOptions = false) (state : σ) :
    q.presentedOptions state = (q.body.options, state) := by
  rw [Question.presentedOptions, h]
  rfl

end Questionnaire
