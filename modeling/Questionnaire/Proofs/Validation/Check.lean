import Questionnaire.Proofs.Except
import Questionnaire.Proofs.Number.Written
import Questionnaire.Proofs.Validation.Demands

/-!
# What a check finds

All kinds of questions but grids and section breaks are checked in the same three steps: whether the
answer has the right shape, whether it is blank, and whether it is within what is asked. `Judged`
has one case for each way in which this can end, and `Body.judged` says that every check ends in one
of them. What can be said of checks in general is proved by cases on it.

Whether an answer is required matters in the second step alone. The third objects to what was
answered and to nothing else, whatever it finds (`ObjectsOnly`).
-/

namespace Questionnaire

/-! ## Parts of checks -/

namespace Checked

/-- A check that finds no fault but in what was answered. -/
def ObjectsOnly (check : Checked) : Prop :=
  ∀ violation, check = .error violation → violation.isConstraint = true

theorem refuse_eq_ok_iff {condition : Bool} {violation : Violation} :
    refuse condition violation = .ok () ↔ condition = false := by
  cases condition <;> simp [refuse]

theorem bounded_eq_ok_iff {β : Type} {bound : Option β} {violated : β → Bool}
    {violation : β → Violation} :
    bounded bound violated violation = .ok () ↔ ∀ b, bound = some b → violated b = false := by
  cases bound with
  | none => simp [bounded]
  | some b => simp [bounded, refuse_eq_ok_iff]

theorem refuseFirst_eq_ok_iff {β : Type} {items : List β} {refused : β → Bool}
    {violation : β → Violation} :
    refuseFirst items refused violation = .ok () ↔ ∀ item ∈ items, refused item = false := by
  unfold refuseFirst
  cases h : items.find? refused with
  | none => simpa [List.find?_eq_none] using h
  | some item =>
    refine iff_of_false (by simp) fun hnone => ?_
    have hrefused := List.find?_some h
    rw [hnone item (List.mem_of_find?_eq_some h)] at hrefused
    cases hrefused

/-- Checks one after the other pass when both do. -/
theorem and_then_eq_ok_iff {first second : Checked} :
    (do first; second) = .ok () ↔ first = .ok () ∧ second = .ok () := by
  rw [bind_eq_ok_iff]
  exact ⟨fun ⟨_, h⟩ => h, fun h => ⟨(), h⟩⟩

theorem ObjectsOnly.refuse {condition : Bool} {violation : Violation}
    (h : violation.isConstraint = true) : ObjectsOnly (refuse condition violation) := by
  intro found hfound
  cases condition with
  | false => cases hfound
  | true =>
    cases hfound
    exact h

theorem ObjectsOnly.bounded {β : Type} {bound : Option β} {violated : β → Bool}
    {violation : β → Violation} (h : ∀ b, (violation b).isConstraint = true) :
    ObjectsOnly (bounded bound violated violation) := by
  cases bound with
  | none =>
    intro found hfound
    cases hfound
  | some b => exact .refuse (h b)

theorem ObjectsOnly.refuseFirst {β : Type} {items : List β} {refused : β → Bool}
    {violation : β → Violation} (h : ∀ item, (violation item).isConstraint = true) :
    ObjectsOnly (refuseFirst items refused violation) := by
  intro found hfound
  unfold Checked.refuseFirst at hfound
  split at hfound
  next item _ =>
    cases hfound
    exact h item
  next => cases hfound

theorem ObjectsOnly.and_then {first second : Checked} (hfirst : ObjectsOnly first)
    (hsecond : ObjectsOnly second) : ObjectsOnly (do first; second) := by
  intro found hfound
  rcases bind_eq_error_iff.1 hfound with h | ⟨_, _, h⟩
  · exact hfirst found h
  · exact hsecond found h

end Checked

open Checked (ObjectsOnly)

/-- A choice with an id is among the choices. -/
theorem isChoiceId_iff {choices : List Choice} {id : String} :
    isChoiceId choices id = true ↔ ∃ choice ∈ choices, choice.id = id := by
  simp [isChoiceId]

/-! ## How a check ends -/

/-- How the check of an answer ends, by whether one is required. -/
inductive Body.Judged (body : Body) (answer : Answer) : (Bool → Checked) → Prop where
  /-- The answer has another shape. -/
  | mismatch {expected : String} (takes : ¬ body.Takes answer) :
    Judged body answer fun _ => .error (.typeMismatch expected answer.shape)
  /-- The answer is blank, which is a fault if one is required. -/
  | blank (takes : body.Takes answer) (blank : body.IsBlank answer) :
    Judged body answer Checked.unanswered
  /-- The answer is within what is asked. -/
  | satisfied (takes : body.Takes answer) (not_blank : ¬ body.IsBlank answer)
    (satisfied : body.Satisfied answer) : Judged body answer fun _ => .ok ()
  /-- The answer is objected to. -/
  | violated (takes : body.Takes answer) (not_blank : ¬ body.IsBlank answer)
    (violated : ¬ body.Satisfied answer) {violation : Violation}
    (constraint : violation.isConstraint = true) : Judged body answer fun _ => .error violation

namespace Body.Judged

variable {body : Body} {answer : Answer}

/-- The last step of a check: the answer has the right shape and is not blank. -/
theorem of_rest {rest : Checked} (takes : body.Takes answer) (not_blank : ¬ body.IsBlank answer)
    (hok : rest = .ok () ↔ body.Satisfied answer) (hrest : ObjectsOnly rest) :
    body.Judged answer fun _ => rest := by
  cases h : rest with
  | ok => exact .satisfied takes not_blank (hok.1 h)
  | error violation =>
    refine .violated takes not_blank (fun hsatisfied => ?_) (hrest violation h)
    rw [hok.2 hsatisfied] at h
    cases h

/-- The three steps of a check, by a view of the answer that only the right shape admits. -/
theorem of_view {α : Type} {expected : String} {view : Option α} {isBlank : α → Bool}
    {rest : α → Checked} (htakes : body.Takes answer ↔ ∃ a, view = some a)
    (hblank : ∀ a, view = some a → (isBlank a = true ↔ body.IsBlank answer))
    (hok : ∀ a, view = some a → (rest a = .ok () ↔ body.Satisfied answer))
    (hrest : ∀ a, ObjectsOnly (rest a)) :
    body.Judged answer fun required => (answer.expect expected view >>= fun a =>
      if isBlank a then Checked.unanswered required else rest a) := by
  cases h : view with
  | none => exact .mismatch (by simp [htakes, h])
  | some a =>
    have takes := htakes.2 ⟨a, h⟩
    -- Whether an answer is required matters in the blank branch alone.
    have hcheck : (fun required => (answer.expect expected (some a) >>= fun a =>
        if isBlank a then Checked.unanswered required else rest a)) =
          if isBlank a then Checked.unanswered else fun _ => rest a := by
      funext required
      cases hb : isBlank a <;> simp [Answer.expect, bind, Except.bind, hb]
    rw [hcheck]
    split
    next hb => exact .blank takes ((hblank a h).1 hb)
    next hb => exact of_rest takes (mt (hblank a h).2 hb) (hok a h) (hrest a)

end Body.Judged

/-! ## Views of answers -/

namespace Answer

variable {answer : Answer}

/-- An answer reads as a single text when it is a text or a number. -/
theorem exists_scalarText?_iff :
    (∃ s, answer.scalarText? = some s) ↔ (∃ s, answer = .text s) ∨ ∃ x, answer = .number x := by
  cases answer <;> simp [scalarText?]

theorem asList?_eq_some_iff {items : List String} :
    answer.asList? = some items ↔ answer = .list items := by
  cases answer <;> simp [asList?]

theorem asText?_eq_some_iff {s : String} : answer.asText? = some s ↔ answer = .text s := by
  cases answer <;> simp [asText?]

/-- An answer is a list of files when it is one, or the empty list. -/
theorem asFiles?_eq_some_iff {uploads : List File} :
    answer.asFiles? = some uploads ↔
      answer = .files uploads ∨ answer = .list [] ∧ uploads = [] := by
  match answer with
  | .files _ | .text _ | .number _ | .grid _ | .list [] | .list (_ :: _) =>
    simp [asFiles?, eq_comm]

/-- An answer is files when it is a list of files or the empty list. -/
theorem exists_asFiles?_iff :
    (∃ uploads, answer.asFiles? = some uploads) ↔
      (∃ uploads, answer = .files uploads) ∨ answer = .list [] := by
  simp [asFiles?_eq_some_iff, exists_or]

end Answer

/-- Where a text or a number is taken, the answer is blank when its text is: the text of a number
never is. -/
theorem isBlank_scalarText_iff {body : Body} {answer : Answer} {text : String}
    (htext : answer.scalarText? = some text)
    (hbody : ∀ s, body.IsBlank (.text s) ↔ Text.trim s = "")
    (hnumber : ∀ x, ¬ body.IsBlank (.number x)) :
    Text.isBlank text = true ↔ body.IsBlank answer := by
  cases answer with
  | text s =>
    cases htext
    rw [Text.isBlank_iff_trim_eq, hbody]
  | number x =>
    cases htext
    exact iff_of_false (by rw [Number.isBlank_toProse]; decide) (hnumber x)
  | _ => cases htext

/-! ## Kind by kind -/

namespace Body

variable {answer : Answer}

/-- A pick is checked in the three steps, whichever body it is of. -/
theorem judged_pickOne {body : Body} {pick : PickOne}
    (hbody : body = .multipleChoice pick ∨ body = .dropdown pick) :
    body.Judged answer fun required => pick.check required answer := by
  have htakes : body.Takes answer ↔ ∃ s, answer.scalarText? = some s := by
    rw [Answer.exists_scalarText?_iff]
    rcases hbody with rfl | rfl <;> rfl
  have hsatisfied : body.Satisfied answer ↔
      ∃ picked, answer.scalarText? = some picked ∧ pick.Satisfied picked := by
    rcases hbody with rfl | rfl <;> rfl
  refine .of_view htakes ?blank ?ok ?rest
  case blank =>
    intro picked hpicked
    rcases hbody with rfl | rfl
    · exact isBlank_scalarText_iff hpicked (fun _ => Iff.rfl) fun _ h => h
    · exact isBlank_scalarText_iff hpicked (fun _ => Iff.rfl) fun _ h => h
  case ok =>
    intro picked hpicked
    rw [hsatisfied, Checked.refuse_eq_ok_iff]
    simp only [hpicked, Option.some_inj, exists_eq_left', PickOne.Satisfied, ← isChoiceId_iff]
    cases pick.allowOther <;> simp
  case rest => exact fun _ => .refuse rfl

/-- A multiple choice is checked in the three steps. -/
theorem judged_checkboxGroup (pick : PickMany) :
    (checkboxGroup pick).Judged answer fun required => pick.check required answer := by
  refine .of_view ?takes ?blank ?ok ?rest
  case takes => exact exists_congr fun _ => Answer.asList?_eq_some_iff.symm
  case blank =>
    intro selected h
    obtain rfl := Answer.asList?_eq_some_iff.1 h
    exact List.isEmpty_iff
  case ok =>
    intro selected h
    obtain rfl := Answer.asList?_eq_some_iff.1 h
    have hsatisfied : (checkboxGroup pick).Satisfied (.list selected) ↔
        pick.Satisfied selected := by simp [Satisfied]
    have hknown : (∀ id ∈ selected, (!pick.allowOther && !isChoiceId pick.options id) = false) ↔
        pick.allowOther = true ∨ ∀ id ∈ selected, ∃ choice ∈ pick.options, choice.id = id := by
      simp only [← isChoiceId_iff]
      cases pick.allowOther <;> simp
    rw [hsatisfied, Checked.and_then_eq_ok_iff, Checked.and_then_eq_ok_iff,
      Checked.bounded_eq_ok_iff, Checked.bounded_eq_ok_iff, Checked.refuseFirst_eq_ok_iff, hknown]
    simp only [decide_eq_false_iff_not, Nat.not_lt]
    exact ⟨fun ⟨hmin, hmax, hall⟩ => ⟨hmin, hmax, hall⟩,
      fun h => ⟨h.enough, h.not_too_many, h.known⟩⟩
  case rest =>
    exact fun _ => .and_then (.bounded fun _ => rfl) (.and_then (.bounded fun _ => rfl)
      (.refuseFirst fun _ => rfl))

/-- A text is checked in the three steps. -/
theorem judged_openText (entry : TextEntry) :
    (openText entry).Judged answer fun required => entry.check required answer := by
  refine .of_view ?takes ?blank ?ok ?rest
  case takes => exact Answer.exists_scalarText?_iff.symm
  case blank => exact fun text h => isBlank_scalarText_iff h (fun _ => Iff.rfl) fun _ h => h
  case ok =>
    intro text h
    have hsatisfied : (openText entry).Satisfied answer ↔ entry.Satisfied text := by
      simp [Satisfied, h]
    rw [hsatisfied, Checked.bounded_eq_ok_iff]
    simp only [decide_eq_false_iff_not, Nat.not_lt]
    rfl
  case rest => exact fun _ => .bounded fun _ => rfl

/-- A number is checked in the three steps. -/
theorem judged_numeric (entry : NumberEntry) :
    (numeric entry).Judged answer fun required => entry.check required answer := by
  refine .of_view ?takes ?blank ?ok ?rest
  case takes => exact Answer.exists_scalarText?_iff.symm
  case blank => exact fun text h => isBlank_scalarText_iff h (fun _ => Iff.rfl) fun _ h => h
  case ok =>
    intro text _
    -- What is not blank may still be no finite number, which satisfies nothing.
    cases hx : answer.asNumber?.filter Number.isFinite with
    | none =>
      refine iff_of_false nofun fun ⟨x, given, _⟩ => ?_
      exact Number.filter_isFinite_eq_none_iff.1 hx x given
    | some x =>
      obtain ⟨x, rfl, given⟩ := Number.filter_isFinite_eq_some_iff.1 hx
      have hsatisfied : (numeric entry).Satisfied answer ↔ entry.Satisfied x := by
        simp [Satisfied, given]
      rw [hsatisfied, Checked.and_then_eq_ok_iff, Checked.bounded_eq_ok_iff,
        Checked.bounded_eq_ok_iff]
      simp only [decide_eq_false_iff_not, Number.not_finite_lt_iff, Number.not_lt_finite_iff]
      exact ⟨fun ⟨hmin, hmax⟩ => ⟨hmin, hmax⟩, fun h => ⟨h.min_le, h.le_max⟩⟩
  case rest =>
    intro text
    cases answer.asNumber?.filter Number.isFinite with
    | none =>
      intro violation h
      cases h
      rfl
    | some x => exact .and_then (.bounded fun _ => rfl) (.bounded fun _ => rfl)

/-- A date is checked in the three steps. -/
theorem judged_date (entry : DateEntry) :
    (date entry).Judged answer fun required => entry.check required answer := by
  refine .of_view ?takes ?blank ?ok ?rest
  case takes => exact exists_congr fun _ => Answer.asText?_eq_some_iff.symm
  case blank =>
    intro text h
    obtain rfl := Answer.asText?_eq_some_iff.1 h
    exact Text.isBlank_iff_trim_eq
  case ok =>
    intro text h
    obtain rfl := Answer.asText?_eq_some_iff.1 h
    -- What is asked of the text is what is asked of the one date that it is read as.
    have hsatisfied : (date entry).Satisfied (.text text) ↔
        ∃ day, Date.ofAnswer? (Text.trim text) = some day ∧
          (∀ min, entry.min = some min → ¬ day < min) ∧
          ∀ max, entry.max = some max → ¬ max < day := by
      simp only [Satisfied, Date.ofAnswer?_eq_some_iff, Answer.text.injEq]
      constructor
      · rintro ⟨_, day, rfl, hwritten, hyear, hmin, hmax⟩
        exact ⟨day, ⟨hwritten, hyear⟩, hmin, hmax⟩
      · rintro ⟨day, ⟨hwritten, hyear⟩, hmin, hmax⟩
        exact ⟨text, day, rfl, hwritten, hyear, hmin, hmax⟩
    rw [hsatisfied]
    cases Date.ofAnswer? (Text.trim text) with
    | none => simp
    | some day =>
      simp only [Checked.and_then_eq_ok_iff, Checked.bounded_eq_ok_iff, decide_eq_false_iff_not,
        Option.some_inj, exists_eq_left']
  case rest =>
    intro text
    cases Date.ofAnswer? (Text.trim text) with
    | none =>
      intro violation h
      cases h
      rfl
    | some day => exact .and_then (.bounded fun _ => rfl) (.bounded fun _ => rfl)

/-- The check of the scale itself asks for a whole number from one to the number of points. -/
theorem refuse_off_scale_eq_ok_iff {scale : RatingScale} {rating : Number} {violation : Violation} :
    Checked.refuse (!match rating.whole? with
      | some n => decide (1 ≤ n) && decide (n ≤ scale.points.toNat)
      | none => false) violation = .ok () ↔ scale.Satisfied rating := by
  rw [Checked.refuse_eq_ok_iff, Bool.not_eq_false', RatingScale.Satisfied]
  have hsame : ∀ n : ℕ, rating.value? = some ((n : ℚ) : ExtendedRat) ↔
      rating.whole? = some (n : ℤ) := fun _ => Number.whole?_eq_some_iff.symm
  simp only [hsame]
  cases hwhole : rating.whole? with
  | none => simp
  | some k =>
    simp only [Bool.and_eq_true, decide_eq_true_eq, Option.some_inj]
    constructor
    · rintro ⟨hlow, hhigh⟩
      obtain ⟨n, rfl⟩ := Int.eq_ofNat_of_zero_le (by omega : 0 ≤ k)
      exact ⟨n, by omega, by omega, rfl⟩
    · rintro ⟨n, hlow, hhigh, hk⟩
      omega

/-- A rating is checked in the three steps, of which the second comes first: what is empty need not
read as a number. -/
theorem judged_likertScale (scale : RatingScale) :
    (likertScale scale).Judged answer fun required => scale.check required answer := by
  unfold RatingScale.check
  cases hempty : answer.isEmpty with
  | true => exact .blank (.inr hempty) hempty
  | false =>
    have not_blank : ¬ (likertScale scale).IsBlank answer := by simp [IsBlank, hempty]
    cases hrating : answer.asNumber? with
    | none =>
      refine .mismatch fun htakes => ?_
      rcases htakes with ⟨x, hx⟩ | h
      · rw [hx] at hrating
        cases hrating
      · rw [h] at hempty
        cases hempty
    | some rating =>
      have hsatisfied : (likertScale scale).Satisfied answer ↔ scale.Satisfied rating := by
        simp [Satisfied, hrating]
      have hok : Checked.refuse _ (.outOfScale scale.points) = .ok () ↔
          (likertScale scale).Satisfied answer :=
        refuse_off_scale_eq_ok_iff.trans hsatisfied.symm
      exact .of_rest (.inl ⟨rating, hrating⟩) not_blank hok (.refuse rfl)

/-- The entries of a ranking pass when they are choices, none is there twice and none has been gone
through. -/
theorem checkEntries_eq_ok_iff {options : List Choice} {seen entries : List String} :
    Ranking.checkEntries options seen entries = .ok () ↔
      (∀ id ∈ entries, ∃ choice ∈ options, choice.id = id) ∧ entries.Nodup ∧
        ∀ id ∈ entries, id ∉ seen := by
  induction entries generalizing seen with
  | nil => simp [Ranking.checkEntries]
  | cons entry rest ih =>
    unfold Ranking.checkEntries
    split
    next hunknown =>
      rw [Bool.not_eq_true', ← Bool.not_eq_true, isChoiceId_iff] at hunknown
      exact iff_of_false (by simp) fun h => hunknown (h.1 entry List.mem_cons_self)
    next hknown =>
      rw [Bool.not_eq_true', Bool.not_eq_false, isChoiceId_iff] at hknown
      -- Not having been gone through before is what no repetition comes to, one entry at a time.
      split
      next hseen =>
        rw [List.contains_iff_mem] at hseen
        exact iff_of_false (by simp) fun h => h.2.2 entry List.mem_cons_self hseen
      next hfresh =>
        rw [List.contains_iff_mem] at hfresh
        rw [ih, List.forall_mem_cons, List.forall_mem_cons, List.nodup_cons]
        simp only [List.mem_cons, not_or]
        constructor
        · rintro ⟨hknowns, hnodup, hfreshes⟩
          exact ⟨⟨hknown, hknowns⟩, ⟨fun h => (hfreshes entry h).1 rfl, hnodup⟩, hfresh,
            fun id h => (hfreshes id h).2⟩
        · rintro ⟨⟨_, hknowns⟩, ⟨hnew, hnodup⟩, _, hfreshes⟩
          exact ⟨hknowns, hnodup, fun id h => ⟨fun heq => hnew (heq ▸ h), hfreshes id h⟩⟩

/-- A ranking is objected to by its entries. -/
theorem objectsOnly_checkEntries (options : List Choice) (seen entries : List String) :
    ObjectsOnly (Ranking.checkEntries options seen entries) := by
  induction entries generalizing seen with
  | nil =>
    intro violation h
    cases h
  | cons entry rest ih =>
    intro violation h
    unfold Ranking.checkEntries at h
    split at h
    · cases h
      rfl
    · split at h
      · cases h
        rfl
      · exact ih (entry :: seen) violation h

/-- A ranking is checked in the three steps. -/
theorem judged_ranking (order : Ranking) :
    (ranking order).Judged answer fun required => order.check required answer := by
  refine .of_view ?takes ?blank ?ok ?rest
  case takes => exact exists_congr fun _ => Answer.asList?_eq_some_iff.symm
  case blank =>
    intro ranked h
    obtain rfl := Answer.asList?_eq_some_iff.1 h
    exact List.isEmpty_iff
  case ok =>
    intro ranked h
    obtain rfl := Answer.asList?_eq_some_iff.1 h
    have hsatisfied : (ranking order).Satisfied (.list ranked) ↔ order.Satisfied ranked := by
      simp [Satisfied]
    rw [hsatisfied, checkEntries_eq_ok_iff]
    exact ⟨fun ⟨hknown, hnodup, _⟩ => ⟨hknown, hnodup⟩,
      fun h => ⟨h.known, h.once, fun _ _ => List.not_mem_nil⟩⟩
  case rest => exact fun ranked => objectsOnly_checkEntries order.options [] ranked

section Types

variable {file : File} {accepted family : List Char}

/-- A type with a point in front is an ending of names. -/
theorem hasType_iff_of_point (point : accepted.head? = some '.') :
    file.HasType accepted ↔ accepted <:+ (Text.asciiLower file.name).toList := by
  refine ⟨fun h => ?_, .ending point⟩
  cases h with
  | ending _ name => exact name
  | family no_point | media no_point => exact absurd point no_point

/-- A family of media types has those that are it up to the stroke. -/
theorem hasType_iff_of_family (no_point : (family ++ ['/', '*']).head? ≠ some '.') :
    file.HasType (family ++ ['/', '*']) ↔ ∃ media, file.mediaType = some media ∧
      (Text.asciiLower media).toList.takeWhile (· ≠ '/') = family := by
  constructor
  · intro h
    cases h with
    | ending point => exact absurd point no_point
    | family _ accepted_eq media_eq start =>
      obtain rfl := List.append_cancel_right accepted_eq
      exact ⟨_, media_eq, start⟩
    | media _ no_family => exact absurd (List.suffix_append _ _) no_family
  · rintro ⟨media, media_eq, start⟩
    exact .family no_point rfl media_eq start

/-- Any other type is one media type. -/
theorem hasType_iff_of_ne (no_point : accepted.head? ≠ some '.')
    (no_family : ¬ ['/', '*'] <:+ accepted) :
    file.HasType accepted ↔ ∃ media, file.mediaType = some media ∧
      (Text.asciiLower media).toList = accepted := by
  constructor
  · intro h
    cases h with
    | ending point => exact absurd point no_point
    | family _ accepted_eq => exact absurd ⟨_, accepted_eq.symm⟩ no_family
    | media _ _ media_eq accepted_eq => exact ⟨_, media_eq, accepted_eq.symm⟩
  · rintro ⟨media, media_eq, accepted_eq⟩
    exact .media no_point no_family media_eq accepted_eq.symm

end Types

/-- A file is taken for one of an accepted type when it is. -/
theorem isOfType_iff {file : File} {accepted : String} :
    file.isOfType accepted = true ↔
      file.HasType (Text.asciiLower (Text.trim accepted)).toList := by
  simp only [File.isOfType]
  -- How the accepted type is normalized does not matter here.
  generalize (Text.asciiLower (Text.trim accepted)).toList = accepted
  split
  next point => rw [List.isSuffixOf_iff_suffix, hasType_iff_of_point point]
  next no_point =>
    by_cases hfamily : ['/', '*'] <:+ accepted
    · obtain ⟨family, rfl⟩ := hfamily
      rw [hasType_iff_of_family no_point]
      cases file.mediaType with
      | none => simp
      | some media => simp [List.isSuffixOf_iff_suffix]
    · rw [hasType_iff_of_ne no_point hfamily]
      cases file.mediaType with
      | none => simp
      | some media => simp [List.isSuffixOf_iff_suffix, hfamily]

/-- A file passes when it is not too large and of an accepted type. -/
theorem checkFile_eq_ok_iff {upload : Upload} {file : File} :
    upload.checkFile file = .ok () ↔
      (∀ max, upload.maxFileSize = some max → file.size ≤ max) ∧
        (upload.allowedTypes ≠ [] → ∃ accepted ∈ upload.allowedTypes,
          file.HasType (Text.asciiLower (Text.trim accepted)).toList) := by
  rw [Upload.checkFile, Checked.and_then_eq_ok_iff, Checked.bounded_eq_ok_iff,
    Checked.refuse_eq_ok_iff]
  simp only [decide_eq_false_iff_not, UInt64.not_lt, ← isOfType_iff, ← List.any_eq_true,
    Bool.and_eq_false_imp, Bool.not_eq_true', List.isEmpty_eq_false_iff, Bool.not_eq_false']

/-- Files pass when each does. -/
theorem checkFiles_eq_ok_iff {upload : Upload} {uploads : List File} :
    upload.checkFiles uploads = .ok () ↔ ∀ file ∈ uploads, upload.checkFile file = .ok () := by
  induction uploads with
  | nil => simp [Upload.checkFiles]
  | cons file rest ih =>
    rw [Upload.checkFiles, Checked.and_then_eq_ok_iff, ih, List.forall_mem_cons]

/-- Files are objected to one by one. -/
theorem objectsOnly_checkFiles (upload : Upload) (uploads : List File) :
    ObjectsOnly (upload.checkFiles uploads) := by
  induction uploads with
  | nil =>
    intro violation h
    cases h
  | cons file rest ih =>
    exact .and_then (.and_then (.bounded fun _ => rfl) (.refuse rfl)) ih

/-- Files are checked in the three steps. -/
theorem judged_fileUpload (upload : Upload) :
    (fileUpload upload).Judged answer fun required => upload.check required answer := by
  refine .of_view ?takes ?blank ?ok ?rest
  case takes => exact Answer.exists_asFiles?_iff.symm
  case blank =>
    intro uploads h
    rw [List.isEmpty_iff]
    match answer, h with
    | .files _, rfl => rfl
    | .list [], rfl => simp [IsBlank]
  case ok =>
    intro uploads h
    have hsatisfied : (fileUpload upload).Satisfied answer ↔ upload.Satisfied uploads := by
      simp [Satisfied, h]
    rw [hsatisfied, Checked.and_then_eq_ok_iff, Checked.bounded_eq_ok_iff, checkFiles_eq_ok_iff]
    simp only [decide_eq_false_iff_not, Nat.not_lt, checkFile_eq_ok_iff]
    constructor
    · rintro ⟨hcount, hfiles⟩
      exact ⟨hcount, fun file hfile => (hfiles file hfile).1,
        fun hnamed file hfile => (hfiles file hfile).2 hnamed⟩
    · intro h
      exact ⟨h.not_too_many, fun file hfile =>
        ⟨h.not_too_large file hfile, fun hnamed => h.typed hnamed file hfile⟩⟩
  case rest =>
    exact fun uploads => .and_then (.bounded fun _ => rfl) (objectsOnly_checkFiles upload uploads)

/-- Every check but that of a grid or a section break ends in one of the four ways. -/
theorem judged {body : Body} (answer : Answer) (no_grid : body.kind ≠ .matrix)
    (no_break : body.kind ≠ .sectionBreak) :
    body.Judged answer fun required => body.check required answer := by
  cases body with
  | multipleChoice pick => exact judged_pickOne (.inl rfl)
  | checkboxGroup pick => exact judged_checkboxGroup pick
  | likertScale scale => exact judged_likertScale scale
  | openText entry => exact judged_openText entry
  | dropdown pick => exact judged_pickOne (.inr rfl)
  | matrix grid => exact absurd rfl no_grid
  | numeric entry => exact judged_numeric entry
  | date entry => exact judged_date entry
  | ranking order => exact judged_ranking order
  | fileUpload upload => exact judged_fileUpload upload
  | sectionBreak => exact absurd rfl no_break

end Body

end Questionnaire
