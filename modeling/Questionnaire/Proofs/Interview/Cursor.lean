import Mathlib.Data.List.Nodup
import Questionnaire.Proofs.Interview.Coherence
import Questionnaire.Proofs.Visibility.Meaning

/-!
# The cursor

The cursor is a place among the visible questions, and the visible questions are those presented
that visibility admits. So the current question splits the presented ones in two, and the place of
the cursor is the number of visible questions in the first part (`CursorOn`,
`exists_cursorOn`). In this form it is plain what an answer does to the cursor: as long as the
current question stays visible, the split is the same and the place is counted anew
(`CursorOn.recorded`).
-/

namespace Questionnaire

/-- No two questions of a survey share an id. -/
abbrev Survey.DistinctIds (survey : Survey) : Prop :=
  (survey.questions.map Question.id).Nodup

/-- A question found by an id is one of the survey. -/
theorem Survey.mem_of_question?_eq_some {survey : Survey} {id : String} {q : Question}
    (h : survey.question? id = some q) : q ∈ survey.questions :=
  List.mem_of_find?_eq_some h

/-- Where no two questions share an id, every question is found by its id. -/
theorem Survey.question?_id {survey : Survey} (h : survey.DistinctIds) {q : Question}
    (hq : q ∈ survey.questions) : survey.question? q.id = some q := by
  cases hfound : survey.question? q.id with
  | none => exact absurd (List.find?_eq_none.1 hfound q hq) (by simp)
  | some other =>
    have hid : other.id = q.id := Interview.id_of_question?_eq_some hfound
    rw [List.inj_on_of_nodup_map h (mem_of_question?_eq_some hfound) hq hid]

/-- An item of a filtered list splits the list it was filtered from: its place is the number of
items before it that pass. -/
theorem exists_split_of_getElem?_filter {α : Type} {p : α → Bool} {xs : List α} {n : Nat} {x : α}
    (h : (xs.filter p)[n]? = some x) :
    ∃ before after, xs = before ++ x :: after ∧ (before.filter p).length = n ∧ p x = true := by
  -- Along the list: an item that passes is found at place zero, or is one of those before.
  induction xs generalizing n with
  | nil => simp at h
  | cons head rest ih =>
    by_cases hp : p head = true
    · rw [List.filter_cons_of_pos hp] at h
      cases n with
      | zero =>
        obtain rfl : head = x := by simpa using h
        exact ⟨[], rest, rfl, rfl, hp⟩
      | succ n =>
        obtain ⟨before, after, rfl, hlength, hx⟩ := ih (by simpa using h)
        exact ⟨head :: before, after, rfl, by simp [hp, hlength], hx⟩
    · rw [List.filter_cons_of_neg hp] at h
      obtain ⟨before, after, rfl, hlength, hx⟩ := ih h
      exact ⟨head :: before, after, rfl, by simp [hp, hlength], hx⟩

namespace Interview

variable {σ : Type}

/-- Whether a question is among the visible ones. -/
def admits (i : Interview σ) (q : Question) : Bool :=
  i.visibility.admits q.id

theorem visible_eq_filter (survey : Survey) (i : Interview σ) :
    i.visible survey = (i.presented survey).filter i.admits := rfl

/-! ## Presented questions -/

/-- The questions presented are those of the survey. -/
theorem Coherent.presented_perm {survey : Survey} {i : Interview σ} (h : Coherent survey i) :
    (i.presented survey).Perm survey.questions := by
  -- In authored order the places give the questions themselves.
  have hmap : (List.range survey.questions.length).map (fun place => survey.questions[place]?) =
      survey.questions.map some :=
    List.ext_getElem (by simp) fun n hn hn' => by simp
  have hrange : (List.range survey.questions.length).filterMap
      (fun place => survey.questions[place]?) = survey.questions := by
    calc (List.range survey.questions.length).filterMap (fun place => survey.questions[place]?)
        = ((List.range survey.questions.length).map
            fun place => survey.questions[place]?).filterMap id := by rw [List.filterMap_map]; rfl
      _ = survey.questions := by rw [hmap, List.filterMap_map]; exact List.filterMap_some
  rw [← hrange]
  exact h.order_perm.filterMap _

/-- A question presented is one of the survey. -/
theorem Coherent.mem_questions {survey : Survey} {i : Interview σ} (h : Coherent survey i)
    {q : Question} (hq : q ∈ i.presented survey) : q ∈ survey.questions :=
  h.presented_perm.mem_iff.1 hq

/-- Where no two questions share an id, no two presented ones do. -/
theorem Coherent.nodup_presented {survey : Survey} {i : Interview σ} (h : Coherent survey i)
    (hids : survey.DistinctIds) : ((i.presented survey).map Question.id).Nodup :=
  (h.presented_perm.map Question.id).nodup_iff.2 hids

/-! ## The current question -/

/-- The cursor is on a question at a place: the question stands between the given parts of the
presented ones and is visible, and so many of those before it are visible. -/
structure CursorOn (survey : Survey) (i : Interview σ) (position : Nat) (before : List Question)
    (q : Question) (after : List Question) : Prop where
  /-- The presented questions are the two parts with the question between them. -/
  presented_eq : i.presented survey = before ++ q :: after
  /-- The place is the number of visible questions before. -/
  position_eq : (before.filter i.admits).length = position
  /-- The question is visible. -/
  admitted : i.admits q = true

/-- While the survey is being answered, the cursor is on the current question. -/
theorem exists_cursorOn {survey : Survey} {i : Interview σ} {position : Nat} {q : Question}
    (hstage : i.stage = .answering position) (hq : i.current? survey = some q) :
    ∃ before after, CursorOn survey i position before q after := by
  rw [current?, position?, hstage, Option.bind_some, visible_eq_filter] at hq
  obtain ⟨before, after, hpresented, hposition, hadmitted⟩ := exists_split_of_getElem?_filter hq
  exact ⟨before, after, hpresented, hposition, hadmitted⟩

/-- There is a current question where the place of the cursor is one among the visible questions. -/
theorem exists_current? {survey : Survey} {i : Interview σ} {position : Nat}
    (hstage : i.stage = .answering position) (hlt : position < (i.visible survey).length) :
    ∃ q, i.current? survey = some q := by
  rw [current?, position?, hstage, Option.bind_some]
  exact ⟨_, List.getElem?_eq_getElem hlt⟩

/-- Where a question is current, the survey is being answered. -/
theorem exists_stage_of_current? {survey : Survey} {i : Interview σ} {q : Question}
    (h : i.current? survey = some q) : ∃ position, i.stage = .answering position := by
  obtain ⟨position, hposition, -⟩ := Option.bind_eq_some_iff.1 h
  unfold position? at hposition
  split at hposition
  next place hstage => exact ⟨place, hstage⟩
  next => cases hposition

/-- A visible question is presented. -/
theorem mem_presented_of_mem_visible {survey : Survey} {i : Interview σ} {q : Question}
    (h : q ∈ i.visible survey) : q ∈ i.presented survey :=
  (List.mem_filter.1 h).1

/-- The current question is visible. -/
theorem mem_visible_of_current? {survey : Survey} {i : Interview σ} {q : Question}
    (h : i.current? survey = some q) : q ∈ i.visible survey := by
  obtain ⟨position, -, hq⟩ := Option.bind_eq_some_iff.1 h
  exact List.mem_of_getElem? hq

/-- The current question is the one found by its id. -/
theorem eq_of_current? {survey : Survey} {i : Interview σ} (hi : Coherent survey i)
    (hids : survey.DistinctIds) {current q : Question} (hcurrent : i.current? survey = some current)
    (hq : survey.question? current.id = some q) : current = q := by
  have hmem := hi.mem_questions (mem_presented_of_mem_visible (mem_visible_of_current? hcurrent))
  rw [survey.question?_id hids hmem] at hq
  exact Option.some.inj hq

namespace CursorOn

variable {survey : Survey} {i : Interview σ} {position : Nat} {before after : List Question}
  {q : Question}

/-- The visible questions are those before the cursor, the current one, and those after it. -/
theorem visible_eq (h : CursorOn survey i position before q after) :
    i.visible survey = before.filter i.admits ++ q :: after.filter i.admits := by
  rw [visible_eq_filter, h.presented_eq, List.filter_append, List.filter_cons_of_pos h.admitted]

/-- The visible questions before the place of the cursor. -/
theorem take_visible (h : CursorOn survey i position before q after) :
    (i.visible survey).take position = before.filter i.admits := by
  rw [h.visible_eq, ← h.position_eq, List.take_left]

/-- The visible questions up to the place of the cursor. -/
theorem take_succ_visible (h : CursorOn survey i position before q after) :
    (i.visible survey).take (position + 1) = before.filter i.admits ++ [q] := by
  have hsplit : before.filter i.admits ++ q :: after.filter i.admits =
      (before.filter i.admits ++ [q]) ++ after.filter i.admits := by simp
  have hlength : position + 1 = (before.filter i.admits ++ [q]).length := by
    simp [h.position_eq]
  rw [h.visible_eq, hsplit, hlength, List.take_left]

/-- A question is among the visible ones before the cursor when it is presented before the current
one and visible. -/
theorem mem_take_iff (h : CursorOn survey i position before q after) {other : Question} :
    other ∈ (i.visible survey).take position ↔ other ∈ before ∧ i.admits other = true := by
  rw [h.take_visible, List.mem_filter]

/-- A question is among the visible ones up to the cursor when it is among those before it or is the
current one. -/
theorem mem_take_succ_iff (h : CursorOn survey i position before q after) {other : Question} :
    other ∈ (i.visible survey).take (position + 1) ↔
      other ∈ (i.visible survey).take position ∨ other = q := by
  rw [h.take_succ_visible, h.take_visible, List.mem_append, List.mem_singleton]

/-- The place of the cursor is one among the visible questions. -/
theorem position_lt (h : CursorOn survey i position before q after) :
    position < (i.visible survey).length := by
  rw [h.visible_eq, ← h.position_eq, List.length_append, List.length_cons]
  omega

/-- No question before the current one has its id. -/
theorem id_ne_of_mem_before (h : CursorOn survey i position before q after)
    (hids : ((i.presented survey).map Question.id).Nodup) {other : Question}
    (hother : other ∈ before) : other.id ≠ q.id := by
  rw [h.presented_eq, List.map_append, List.map_cons] at hids
  have hdisjoint := (List.nodup_append.1 hids).2.2
  exact hdisjoint _ (List.mem_map_of_mem hother) _ List.mem_cons_self

/-- The place of a question among the visible ones is found by its id. -/
theorem cursorAmong_eq (h : CursorOn survey i position before q after)
    (hids : ((i.presented survey).map Question.id).Nodup) (old : Nat) :
    cursorAmong (i.visible survey) (some q) old = position := by
  have hbefore : (before.filter i.admits).findIdx? (fun other => other.id == q.id) = none := by
    refine List.findIdx?_eq_none_iff.2 fun other hother => ?_
    have hne := h.id_ne_of_mem_before hids (List.mem_filter.1 hother).1
    simp [hne]
  have hfound : (i.visible survey).findIdx? (fun other => other.id == q.id) = some position := by
    rw [h.visible_eq, List.findIdx?_append, hbefore, List.findIdx?_cons]
    simp [h.position_eq]
  have hlt := h.position_lt
  simp only [cursorAmong, hfound, Option.getD_some]
  omega

/-- The question stands at the place among the visible ones. -/
theorem getElem?_visible (h : CursorOn survey i position before q after) :
    (i.visible survey)[position]? = some q := by
  rw [h.visible_eq, ← h.position_eq]
  simp

/-- The current question is the one that the cursor is on. -/
theorem current?_eq (h : CursorOn survey i position before q after)
    (hstage : i.stage = .answering position) : i.current? survey = some q := by
  rw [current?, position?, hstage, Option.bind_some, h.getElem?_visible]

/-- An answer that leaves the current question visible leaves the cursor on it. -/
theorem recorded (h : CursorOn survey i position before q after)
    (hids : ((i.presented survey).map Question.id).Nodup) (hstage : i.stage = .answering position)
    {answered : Question} {answer : Answer}
    (hq : (i.recorded survey answered answer).admits q = true) :
    CursorOn survey (i.recorded survey answered answer)
      (i.keptPosition survey position answered answer) before q after := by
  -- The split is the same, so only the count of visible questions before is taken anew.
  have hcounted : CursorOn survey (i.recorded survey answered answer)
      (before.filter (i.recorded survey answered answer).admits).length before q after :=
    ⟨h.presented_eq, rfl, hq⟩
  refine ⟨h.presented_eq, ?_, hq⟩
  rw [keptPosition, h.current?_eq hstage, hcounted.cursorAmong_eq hids]

end CursorOn

end Interview

end Questionnaire
