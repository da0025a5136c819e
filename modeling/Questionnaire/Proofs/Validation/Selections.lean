import Mathlib.Data.Finset.Card
import Questionnaire.Proofs.Validation.Acceptance

/-!
# How many options are selected

The bounds of a multiple choice are on the number of entries in a selection, and a selection may
have an option more than once. So the options selected are never more than the greatest number, but
they may be fewer than the least number: an option that is repeated often enough passes for as many
(`Question.not_forall_options_within_bounds`).

Repetition is all that is in the way. A selection that repeats nothing has at least the least number
of options, and selections with fewer are let through exactly where the least number is more than
one and can be reached by repeating (`PickMany.CanRepeat`, `Question.options_within_bounds`).
-/

namespace Questionnaire

namespace PickMany

/-- The number of options in a selection, each counted once. -/
def optionsIn (selected : List String) : ℕ :=
  selected.toFinset.card

variable {pick : PickMany} {selected : List String}

theorem optionsIn_le_length (selected : List String) : optionsIn selected ≤ selected.length :=
  List.toFinset_card_le selected

/-- Without repetitions there is an option for each entry. -/
theorem optionsIn_of_nodup (h : selected.Nodup) : optionsIn selected = selected.length :=
  List.toFinset_card_of_nodup h

/-- A selection with an entry has an option. -/
theorem optionsIn_pos (hsome : selected ≠ []) : 0 < optionsIn selected :=
  Finset.card_pos.2 ((List.toFinset_nonempty_iff selected).2 hsome)

/-- One entry over and over is one option. -/
theorem optionsIn_replicate {count : ℕ} (hcount : count ≠ 0) (id : String) :
    optionsIn (List.replicate count id) = 1 := by
  rw [optionsIn, List.toFinset_replicate_of_ne_zero hcount, Finset.card_singleton]

/-- Of the selections with an entry, a check passes those within what is asked. -/
theorem check_eq_ok_iff {required : Bool} (hsome : selected ≠ []) :
    pick.check required (.list selected) = .ok () ↔ pick.Satisfied selected := by
  have hjudged : (Body.checkboxGroup pick).Judged (.list selected) fun required =>
      pick.check required (.list selected) := Body.judged_checkboxGroup pick
  simpa [Body.Takes, Body.IsBlank, Body.Satisfied, hsome] using hjudged.eq_ok_iff required

/-- The least number can be reached by repeating one option where it takes more than one. -/
structure CanRepeat (pick : PickMany) (min : UInt64) : Prop where
  /-- One option is not enough. -/
  more_than_one : 1 < min.toNat
  /-- As many entries are not too many. -/
  not_too_many : ∀ max, pick.maxSelections = some max → min.toNat ≤ max.toNat
  /-- There is something to select. -/
  selectable : pick.allowOther = true ∨ pick.options ≠ []

/-- Where there is something to select, there is an id that may be selected. -/
theorem exists_selectable (h : pick.allowOther = true ∨ pick.options ≠ []) :
    ∃ id, pick.allowOther = true ∨ ∃ choice ∈ pick.options, choice.id = id := by
  rcases h with hother | hoptions
  · exact ⟨"", .inl hother⟩
  · obtain ⟨choice, hchoice⟩ := List.exists_mem_of_ne_nil _ hoptions
    exact ⟨choice.id, .inr ⟨choice, hchoice, rfl⟩⟩

/-- A selection within what is asked can have fewer options than the least number exactly where that
can be reached by repeating. -/
theorem exists_satisfied_few_iff {min : UInt64} (hmin : pick.minSelections = some min) :
    (∃ selected, selected ≠ [] ∧ pick.Satisfied selected ∧ optionsIn selected < min.toNat) ↔
      pick.CanRepeat min := by
  constructor
  · rintro ⟨selected, hsome, hsatisfied, hfew⟩
    have hpos := optionsIn_pos hsome
    refine ⟨by omega, fun max hmax => ?_, hsatisfied.known.imp_right fun hknown => ?_⟩
    · calc min.toNat ≤ selected.length := hsatisfied.enough min hmin
        _ ≤ max.toNat := hsatisfied.not_too_many max hmax
    · obtain ⟨id, hid⟩ := List.exists_mem_of_ne_nil _ hsome
      obtain ⟨choice, hchoice, -⟩ := hknown id hid
      exact List.ne_nil_of_mem hchoice
  · rintro ⟨hmore, hroom, hselectable⟩
    obtain ⟨id, hid⟩ := exists_selectable hselectable
    have hcount : min.toNat ≠ 0 := by omega
    -- The least number of entries, all of them the same.
    refine ⟨List.replicate min.toNat id, by simpa using hcount,
      ⟨?enough, ?not_too_many, ?known⟩, ?few⟩
    case enough =>
      intro bound hbound
      obtain rfl := Option.some.inj (hmin.symm.trans hbound)
      rw [List.length_replicate]
    case not_too_many =>
      intro max hmax
      rw [List.length_replicate]
      exact hroom max hmax
    case known =>
      refine hid.imp_right fun hchoice other hother => ?_
      rwa [List.eq_of_mem_replicate hother]
    case few =>
      rw [optionsIn_replicate hcount]
      exact hmore

end PickMany

namespace Question

open PickMany (optionsIn)

/-- The check of a question with a multiple choice is that of the multiple choice. -/
theorem check_checkboxGroup_eq_ok_iff {q : Question} {pick : PickMany} {selected : List String}
    (hbody : q.body = .checkboxGroup pick) (hsome : selected ≠ []) :
    q.check (some (.list selected)) = .ok () ↔ pick.Satisfied selected := by
  rw [check, hbody, Body.check, PickMany.check_eq_ok_iff hsome]

/-- A selection with entries that a multiple choice accepts has no more options than the greatest
number. It has at least the least number of entries, and if it repeats none, of options. Selections
with fewer options than the least number are accepted exactly where that can be reached by
repeating. -/
theorem options_within_bounds {q : Question} {pick : PickMany}
    (hbody : q.body = .checkboxGroup pick) :
    (∀ selected, selected ≠ [] → q.check (some (.list selected)) = .ok () →
      (∀ max, pick.maxSelections = some max → optionsIn selected ≤ max.toNat) ∧
        ∀ min, pick.minSelections = some min →
          min.toNat ≤ selected.length ∧ (selected.Nodup → min.toNat ≤ optionsIn selected)) ∧
      ∀ min, pick.minSelections = some min →
        ((∃ selected, selected ≠ [] ∧ q.check (some (.list selected)) = .ok () ∧
          optionsIn selected < min.toNat) ↔ pick.CanRepeat min) := by
  refine ⟨fun selected hsome hpasses => ?_, fun min hmin => ?_⟩
  · have hsatisfied := (check_checkboxGroup_eq_ok_iff hbody hsome).1 hpasses
    refine ⟨fun max hmax => ?_, fun min hmin => ⟨hsatisfied.enough min hmin, fun hnodup => ?_⟩⟩
    · calc optionsIn selected ≤ selected.length := PickMany.optionsIn_le_length selected
        _ ≤ max.toNat := hsatisfied.not_too_many max hmax
    · rw [PickMany.optionsIn_of_nodup hnodup]
      exact hsatisfied.enough min hmin
  · rw [← PickMany.exists_satisfied_few_iff hmin]
    refine exists_congr fun selected => and_congr_right fun hsome => and_congr_left' ?_
    exact check_checkboxGroup_eq_ok_iff hbody hsome

/-- A choice of two colours or more. -/
def colourPick : PickMany where
  options := [⟨"red", .plain "Red"⟩, ⟨"blue", .plain "Blue"⟩]
  minSelections := some 2

/-- A question that asks for two colours or more. -/
def colourQuestion : Question where
  id := "colours"
  body := .checkboxGroup colourPick

/-- Two colours are two options, and some selection of one colour alone is accepted too. -/
theorem options_within_bounds_colourQuestion :
    colourQuestion.body = .checkboxGroup colourPick ∧
      colourQuestion.check (some (.list ["red", "blue"])) = .ok () ∧
      2 ≤ optionsIn ["red", "blue"] ∧
      ∃ selected, selected ≠ [] ∧ colourQuestion.check (some (.list selected)) = .ok () ∧
        optionsIn selected < 2 := by
  have hbody : colourQuestion.body = .checkboxGroup colourPick := rfl
  obtain ⟨hwithin, hfew⟩ := options_within_bounds hbody
  have hpasses : colourQuestion.check (some (.list ["red", "blue"])) = .ok () := by decide
  refine ⟨hbody, hpasses, ?_, (hfew 2 rfl).2 ⟨by decide, nofun, .inr (by decide)⟩⟩
  exact ((hwithin ["red", "blue"] (by decide) hpasses).2 2 rfl).2 (by decide)

/-- The options selected need not be within the bounds. Red given twice is accepted where two
colours are asked for. -/
theorem not_forall_options_within_bounds :
    ¬ ∀ (q : Question) (pick : PickMany) (selected : List String), q.body = .checkboxGroup pick →
      selected ≠ [] → q.check (some (.list selected)) = .ok () →
        (∀ min, pick.minSelections = some min → min.toNat ≤ optionsIn selected) ∧
          ∀ max, pick.maxSelections = some max → optionsIn selected ≤ max.toNat := by
  intro h
  have hpasses : colourQuestion.check (some (.list ["red", "red"])) = .ok () := by decide
  have henough : 2 ≤ optionsIn ["red", "red"] :=
    (h colourQuestion colourPick ["red", "red"] rfl (by decide) hpasses).1 2 rfl
  exact absurd henough (by decide)

end Question

end Questionnaire
