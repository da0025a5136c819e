import Questionnaire.Proofs.Interview.Coherence

/-!
# The cursor stays in range

An answer can show or hide any number of questions, the one that it is given to among them, and the
cursor is found again among those that are visible then. It is never past them: in every state of
every run the cursor is at one of the visible questions, or at the first place where none is visible
(`cursor_in_range`). Nothing is asked of the survey, so this holds also where questions share an id.

The place kept after an answer is bounded by the number of questions visible then, and the cursor
moves on, by itself or when it is asked to, only where another visible question follows.
-/

namespace Questionnaire.Interview

variable {σ : Type}

/-- A place is one among the visible questions, or the first where none is visible. -/
def InRange (visible : List Question) (position : Nat) : Prop :=
  position < visible.length ∨ visible = [] ∧ position = 0

/-- While the survey is being answered, the cursor is in range. -/
def CursorInRange (survey : Survey) (i : Interview σ) : Prop :=
  ∀ position, i.stage = .answering position → InRange (i.visible survey) position

/-- The first place is in range. -/
theorem InRange.zero (visible : List Question) : InRange visible 0 := by
  rcases visible with _ | ⟨q, rest⟩
  · exact .inr ⟨rfl, rfl⟩
  · exact .inl (Nat.succ_pos _)

/-- What is before a place in range is in range. -/
theorem InRange.of_succ {visible : List Question} {position : Nat}
    (h : InRange visible (position + 1)) : InRange visible position := by
  rcases h with hlt | ⟨-, hzero⟩
  · exact .inl (Nat.lt_of_succ_lt hlt)
  · exact absurd hzero (Nat.succ_ne_zero _)

/-- The place kept among the questions now visible is in range, wherever the cursor was. -/
theorem inRange_cursorAmong (visible : List Question) (current : Option Question)
    (position : Nat) : InRange visible (cursorAmong visible current position) := by
  unfold cursorAmong
  rcases visible with _ | ⟨q, rest⟩
  · exact .inr ⟨rfl, Nat.min_zero _⟩
  · exact .inl (Nat.lt_succ_of_le (Nat.min_le_right _ _))

/-- After an answer the cursor is in range. -/
theorem cursorInRange_afterAnswer (survey : Survey) (i : Interview σ) (position : Nat)
    (q : Question) (answer : Answer) :
    CursorInRange survey (i.afterAnswer survey position q answer) := by
  intro place hplace
  obtain rfl := Stage.answering.inj hplace
  show InRange ((i.recorded survey q answer).visible survey) _
  split
  next hmoves =>
    obtain ⟨-, -, -, -, hlt⟩ := movesOn_eq_true_iff.1 hmoves
    exact .inl hlt
  next => exact inRange_cursorAmong _ _ _

namespace CursorInRange

variable {survey : Survey} {i after : Interview σ}

/-- An interview starts with the cursor in range. -/
theorem start [Source σ] {draws : σ} {language : Option String}
    (h : Interview.start survey draws language = .ok i) : CursorInRange survey i := by
  obtain ⟨-, rfl⟩ := start_eq_ok_iff.1 h
  intro position hposition
  obtain rfl := Stage.answering.inj hposition
  exact .zero _

/-- An operation leaves the cursor in range. -/
theorem transition [Source σ] {operation : Operation} {reply : Reply}
    (h : Transition survey i operation after reply) (hi : CursorInRange survey i) :
    CursorInRange survey after := by
  cases h with
  | answered answer => exact cursorInRange_afterAnswer _ _ _ _ answer
  | movedOn _ _ more =>
    intro place hplace
    obtain rfl := Stage.answering.inj hplace
    exact .inl more
  | movedBack stage =>
    intro place hplace
    obtain rfl := Stage.answering.inj hplace
    exact (hi _ stage).of_succ
  | submitted => exact fun _ hplace => nomatch hplace
  | refused | atEnd | atStart | languageSet | optionsPresented => exact hi

/-- A history of operations leaves the cursor in range. -/
theorem run [Source σ] (hi : CursorInRange survey i) (history : List Operation) :
    CursorInRange survey (i.run survey history) :=
  run_induction transition hi history

/-- Where the cursor is in range, a question is current unless none is visible. -/
theorem current?_eq_none_iff {position : Nat} (hi : CursorInRange survey i)
    (hstage : i.stage = .answering position) :
    i.current? survey = none ↔ i.visible survey = [] := by
  rw [current?, position?, hstage, Option.bind_some, List.getElem?_eq_none_iff]
  constructor
  · intro hle
    rcases hi position hstage with hlt | ⟨hnone, -⟩
    · exact absurd hlt (Nat.not_lt_of_le hle)
    · exact hnone
  · intro hnone
    rw [hnone]
    exact Nat.zero_le _

end CursorInRange

/-- After any history of operations, while the survey is being answered, the cursor is at one of the
visible questions, or at the first place where none is visible. So no question is current just where
none is visible, the cursor moves on to a place among the visible questions only, and it is moved
back by one place or, at the first, stays. -/
theorem cursor_in_range [Source σ] {survey : Survey} {draws : σ} {language : Option String}
    {i : Interview σ} (h : start survey draws language = .ok i) (history : List Operation)
    {position : Nat} (hstage : (i.run survey history).stage = .answering position) :
    InRange ((i.run survey history).visible survey) position ∧
      ((i.run survey history).current? survey = none ↔
        (i.run survey history).visible survey = []) ∧
      (∀ after place, (i.run survey history).next survey = .ok (after, .moved place) →
        after.stage = .answering place ∧ place < (after.visible survey).length) ∧
      ∃ after move, (i.run survey history).previous = .ok (after, move) ∧
        (position = 0 ∧ after = i.run survey history ∧ move = .stayed ∨
          ∃ place, position = place + 1 ∧ after.stage = .answering place ∧
            move = .moved place) := by
  have hrange := (CursorInRange.start h).run history
  generalize i.run survey history = j at hstage hrange ⊢
  refine ⟨hrange position hstage, hrange.current?_eq_none_iff hstage, ?_, ?_⟩
  · intro after place hnext
    obtain ⟨found, -, -, ⟨hmore, rfl, hmove⟩ | ⟨-, -, hmove⟩⟩ := next_eq_ok_iff.1 hnext
    · obtain rfl := Move.moved.inj hmove
      exact ⟨rfl, hmore⟩
    · cases hmove
  · rcases position with _ | place
    · exact ⟨j, .stayed, previous_eq_ok_iff.2 (.inl ⟨hstage, rfl, rfl⟩), .inl ⟨rfl, rfl, rfl⟩⟩
    · exact ⟨_, .moved place, previous_eq_ok_iff.2 (.inr ⟨place, hstage, rfl, rfl⟩),
        .inr ⟨place, rfl, rfl, rfl⟩⟩

/-- Two questions share an id, and the answer `shut` to `door` hides all three. -/
def houseSurvey : Survey where
  id := "house"
  questions :=
    [{ id := "room", body := .openText {} }, { id := "room", body := .openText {} },
     { id := "door", body := .openText {},
       rules := [⟨"room", .hide, .equals, .text "shut"⟩, ⟨"door", .hide, .equals, .text "shut"⟩] }]

/-- The cursor is on the last question when the answer to it hides every one. -/
theorem cursor_in_range_houseSurvey :
    ∃ i, start houseSurvey (Keystream.ofSeed 0) none = .ok i ∧
      (i.run houseSurvey [.next, .next]).stage = .answering 2 ∧
      (i.run houseSurvey [.next, .next, .respond "door" (.text "shut")]).stage = .answering 0 ∧
      (i.run houseSurvey [.next, .next, .respond "door" (.text "shut")]).visible houseSurvey = [] ∧
      (i.run houseSurvey [.next, .next, .respond "door" (.text "shut")]).current? houseSurvey =
        none := by
  have hstart : start houseSurvey (Keystream.ofSeed 0) none = .ok _ := rfl
  have hnone := (cursor_in_range hstart [.next, .next, .respond "door" (.text "shut")] rfl).2.1
  exact ⟨_, hstart, rfl, rfl, rfl, hnone.2 rfl⟩

end Questionnaire.Interview
