import Questionnaire.Proofs.Shuffle.Permutation

/-!
# Shuffles keep sections

What a section is, is said here without the scan that finds it: a run of items that starts at the
start of the list or at a break, has no break at any later place, and reaches to the next break or
to the end of the list (`IsSection`). The scan keeps one section open as it goes (`OpenSection`) and
so finds these runs and nothing else (`mem_sections_iff`).

Groups that are shuffled each for itself stay where they were (`exists_shuffleGroups_eq`). The
sections of a list of questions are such groups, so whatever is drawn, the places of a section hold
the questions of that section, and the section breaks, of which a section has no more than one, keep
their order (`presentationOrder_keeps_sections`).
-/

namespace Questionnaire

variable {α σ : Type}

/-! ## What a section is -/

/-- Whether there is a break at a place of a list. -/
def breakAt (isBreak : α → Bool) (xs : List α) (place : Nat) : Bool :=
  xs[place]?.any isBreak

/-- The items from `start` up to `stop` are a section. -/
structure IsSection (isBreak : α → Bool) (xs : List α) (start stop : Nat) : Prop where
  /-- There is an item. -/
  nonempty : start < stop
  /-- The items are in the list. -/
  bounded : stop ≤ xs.length
  /-- The first item is the first of the list, or a break. -/
  opens : start = 0 ∨ breakAt isBreak xs start = true
  /-- No later item is a break. -/
  inner : ∀ place, start < place → place < stop → breakAt isBreak xs place = false
  /-- The list ends with the last item, or a break follows. -/
  closes : stop = xs.length ∨ breakAt isBreak xs stop = true

namespace IsSection

variable {isBreak : α → Bool} {xs : List α} {start stop : Nat}

/-- The places of a section. -/
theorem mem_range'_iff (h : IsSection isBreak xs start stop) {place : Nat} :
    place ∈ List.range' start (stop - start) ↔ start ≤ place ∧ place < stop := by
  rw [List.mem_range'_1, Nat.add_sub_cancel' (Nat.le_of_lt h.nonempty)]

/-- A section has no more than one break. -/
theorem length_filter_breakAt_le (h : IsSection isBreak xs start stop) :
    ((List.range' start (stop - start)).filter (breakAt isBreak xs)).length ≤ 1 := by
  obtain ⟨length, hlength⟩ := Nat.exists_eq_succ_of_ne_zero (Nat.sub_ne_zero_of_lt h.nonempty)
  -- After the first place there is none.
  have hrest : (List.range' (start + 1) length).filter (breakAt isBreak xs) = [] := by
    refine List.filter_eq_nil_iff.2 fun place hplace => ?_
    obtain ⟨hafter, hbefore⟩ := List.mem_range'_1.1 hplace
    rw [h.inner place hafter (by omega)]
    exact Bool.false_ne_true
  rw [hlength, Nat.succ_eq_add_one, List.range'_succ, List.filter_cons, hrest]
  split
  next => exact Nat.le_refl 1
  next => exact Nat.zero_le 1

end IsSection

/-! ## The scan finds the sections -/

/-- What the scan knows when it comes to `index`: the section open there starts at `first` and has
no break after that so far. -/
structure OpenSection (isBreak : α → Bool) (xs : List α) (first index : Nat) : Prop where
  /-- The scan is in the section. -/
  first_le : first ≤ index
  /-- The scan is in the list. -/
  bounded : index ≤ xs.length
  /-- The first item is the first of the list, or a break. -/
  opens : first = 0 ∨ breakAt isBreak xs first = true
  /-- No later item seen so far is a break. -/
  inner : ∀ place, first < place → place < index → breakAt isBreak xs place = false

namespace OpenSection

variable {isBreak : α → Bool} {xs : List α} {first index : Nat}

/-- The scan starts with the section that the list starts with. -/
theorem zero (isBreak : α → Bool) (xs : List α) : OpenSection isBreak xs 0 0 where
  first_le := Nat.le_refl 0
  bounded := Nat.zero_le _
  opens := .inl rfl
  inner _ _ hbefore := absurd hbefore (Nat.not_lt_zero _)

/-- A break opens a section. -/
theorem of_break (hindex : index < xs.length) (hbreak : breakAt isBreak xs index = true) :
    OpenSection isBreak xs index (index + 1) where
  first_le := Nat.le_succ _
  bounded := hindex
  opens := .inr hbreak
  inner _ hafter hbefore := absurd hafter (Nat.not_lt_of_le (Nat.le_of_lt_succ hbefore))

/-- The section stays open over an item that is no break, and over its own first. -/
theorem extend (h : OpenSection isBreak xs first index) (hindex : index < xs.length)
    (hstays : first < index → breakAt isBreak xs index = false) :
    OpenSection isBreak xs first (index + 1) where
  first_le := Nat.le_succ_of_le h.first_le
  bounded := hindex
  opens := h.opens
  inner place hafter hbefore := by
    rcases Nat.lt_or_eq_of_le (Nat.le_of_lt_succ hbefore) with hbefore | rfl
    · exact h.inner place hafter hbefore
    · exact hstays hafter

/-- The open section is one if it has an item and closes here. -/
theorem close (h : OpenSection isBreak xs first index) (hlt : first < index)
    (hcloses : index = xs.length ∨ breakAt isBreak xs index = true) :
    IsSection isBreak xs first index :=
  ⟨hlt, h.bounded, h.opens, h.inner, hcloses⟩

/-- Where the open section closes, a section that starts among its items is that section. -/
theorem eq_of_isSection (h : OpenSection isBreak xs first index)
    (hcloses : index = xs.length ∨ breakAt isBreak xs index = true) {start stop : Nat}
    (hsection : IsSection isBreak xs start stop) (hstart : first ≤ start)
    (hbefore : start < index) : start = first ∧ stop = index := by
  have hbounded := h.bounded
  have hfirst : start = first := by
    refine Nat.le_antisymm (Nat.le_of_not_lt fun hlater => ?_) hstart
    rcases hsection.opens with hzero | hbreak
    · omega
    · rw [h.inner start hlater hbefore] at hbreak
      cases hbreak
  subst hfirst
  refine ⟨rfl, Nat.le_antisymm (Nat.le_of_not_lt fun hlater => ?_)
    (Nat.le_of_not_lt fun hearlier => ?_)⟩
  · -- Where the open section closes, the other one does not go on.
    have := hsection.bounded
    rcases hcloses with hend | hbreak
    · omega
    · rw [hsection.inner index hbefore hlater] at hbreak
      cases hbreak
  · -- Where the other one closes, the open section does not go on.
    have := hsection.nonempty
    rcases hsection.closes with hend | hbreak
    · omega
    · rw [h.inner stop hsection.nonempty hearlier] at hbreak
      cases hbreak

end OpenSection

/-- From an open section on, the scan finds the sections that start with it or later. -/
theorem mem_sectionsFrom_iff {isBreak : α → Bool} {xs rest : List α} {first index : Nat}
    (h : OpenSection isBreak xs first index) (hrest : xs.drop index = rest) {start stop : Nat} :
    (start, stop) ∈ sectionsFrom isBreak first index rest ↔
      IsSection isBreak xs start stop ∧ first ≤ start := by
  induction rest generalizing first index with
  | nil =>
    have hend : index = xs.length := Nat.le_antisymm h.bounded (List.drop_eq_nil_iff.1 hrest)
    have hmem : (start, stop) ∈ sectionsFrom isBreak first index [] ↔
        first < index ∧ start = first ∧ stop = index := by
      rw [sectionsFrom]
      split
      next hlt => simp [hlt]
      next hnone => simp [hnone]
    rw [hmem]
    constructor
    · rintro ⟨hlt, rfl, rfl⟩
      exact ⟨h.close hlt (.inl hend), Nat.le_refl _⟩
    · rintro ⟨hsection, hstart⟩
      have hbefore : start < index := hend ▸ Nat.lt_of_lt_of_le hsection.nonempty hsection.bounded
      exact ⟨Nat.lt_of_le_of_lt hstart hbefore,
        h.eq_of_isSection (.inl hend) hsection hstart hbefore⟩
  | cons x rest ih =>
    have hindex : index < xs.length := by
      have := congrArg List.length hrest
      rw [List.length_drop, List.length_cons] at this
      omega
    have hbreak : breakAt isBreak xs index = isBreak x := by
      rw [breakAt, ← List.head?_drop, hrest, List.head?_cons, Option.any_some]
    have hrest : xs.drop (index + 1) = rest := by
      rw [← List.drop_drop, hrest, List.drop_one, List.tail_cons]
    rw [sectionsFrom]
    split
    next hcloses =>
      -- A break closes the open section and opens the next.
      obtain ⟨hisBreak, hlt⟩ : isBreak x = true ∧ first < index := by simpa using hcloses
      rw [hisBreak] at hbreak
      rw [List.mem_cons, Prod.mk.injEq, ih (.of_break hindex hbreak) hrest]
      constructor
      · rintro (⟨rfl, rfl⟩ | ⟨hsection, hstart⟩)
        · exact ⟨h.close hlt (.inr hbreak), Nat.le_refl _⟩
        · exact ⟨hsection, Nat.le_trans h.first_le hstart⟩
      · rintro ⟨hsection, hstart⟩
        rcases Nat.lt_or_ge start index with hbefore | hafter
        · exact .inl (h.eq_of_isSection (.inr hbreak) hsection hstart hbefore)
        · exact .inr ⟨hsection, hafter⟩
    next hstays =>
      refine ih (h.extend hindex fun hlt => ?_) hrest
      rw [hbreak]
      simpa [hlt] using hstays

/-- The scan finds the sections of a list and nothing else. -/
theorem mem_sections_iff {isBreak : α → Bool} {xs : List α} {start stop : Nat} :
    (start, stop) ∈ sections isBreak xs ↔ IsSection isBreak xs start stop := by
  rw [sections, mem_sectionsFrom_iff (.zero isBreak xs) List.drop_zero]
  exact and_iff_left (Nat.zero_le _)

/-! ## Shuffled groups -/

/-- Two lists of groups are arranged one after the other. -/
theorem exists_arrangeGroups_append (xs ys : List (List α)) (draws : List Nat) :
    ∃ rest, arrangeGroups draws (xs ++ ys) = arrangeGroups draws xs ++ arrangeGroups rest ys := by
  induction xs generalizing draws with
  | nil => exact ⟨draws, rfl⟩
  | cons group others ih =>
    obtain ⟨rest, hrest⟩ := ih (draws.drop (group.length - 1))
    refine ⟨rest, ?_⟩
    rw [List.cons_append, arrangeGroups, arrangeGroups, hrest, List.append_assoc]

/-- A group stays between those before it and those after it, in some order. -/
theorem exists_shuffleGroups_eq [Source σ] (before after : List (List α)) (group : List α)
    (state : σ) :
    ∃ left middle right, (shuffleGroups (before ++ group :: after) state).1 =
        left ++ (middle ++ right) ∧
      left.length = before.flatten.length ∧ middle.Perm group := by
  obtain ⟨rest, hrest⟩ := exists_arrangeGroups_append before (group :: after)
    (Source.drawAll (groupBounds (before ++ group :: after)) state).1
  exact ⟨_, _, _, hrest, (arrangeGroups_perm _ before).length_eq, arrange_perm _ group⟩

/-- No other list permutes one that has no more than one item. -/
theorem eq_of_perm_of_length_le_one {xs ys : List α} (h : xs.Perm ys) (hlength : ys.length ≤ 1) :
    xs = ys := by
  rcases ys with _ | ⟨y, _ | ⟨z, rest⟩⟩
  · exact h.eq_nil
  · exact h.eq_singleton
  · simp at hlength

/-- Where no group has two items of a kind, the items of that kind keep their order. -/
theorem filter_arrangeGroups (p : α → Bool) {groups : List (List α)}
    (h : ∀ group ∈ groups, (group.filter p).length ≤ 1) (draws : List Nat) :
    (arrangeGroups draws groups).filter p = groups.flatten.filter p := by
  induction groups generalizing draws with
  | nil => rfl
  | cons group rest ih =>
    have hgroup : (arrange (draws.take (group.length - 1)) group).filter p = group.filter p :=
      eq_of_perm_of_length_le_one ((arrange_perm _ group).filter p) (h group List.mem_cons_self)
    rw [arrangeGroups, List.filter_append, hgroup, List.flatten_cons, List.filter_append,
      ih fun other hother => h other (List.mem_cons_of_mem _ hother)]

/-! ## Shuffled questions -/

/-- The groups of questions that are shuffled within sections are the places of the sections. -/
theorem mem_questionGroups_iff {questions : List Question} {group : List Nat} :
    group ∈ questionGroups questions true ↔
      ∃ start stop, IsSection Question.isSectionBreak questions start stop ∧
        List.range' start (stop - start) = group := by
  rw [questionGroups, if_pos rfl, List.mem_map, Prod.exists]
  simp only [mem_sections_iff]

/-- The places of a section are a group, after groups that hold the places before it. -/
theorem exists_questionGroups_eq {questions : List Question} {start stop : Nat}
    (h : IsSection Question.isSectionBreak questions start stop) :
    ∃ before after, questionGroups questions true =
        before ++ List.range' start (stop - start) :: after ∧ before.flatten.length = start := by
  obtain ⟨before, after, hgroups⟩ :=
    List.append_of_mem (mem_questionGroups_iff.2 ⟨start, stop, h, rfl⟩)
  refine ⟨before, after, hgroups, ?_⟩
  -- Read one after the other the groups are all places, so those before `start` are counted by it.
  have hflatten := flatten_questionGroups questions true
  rw [hgroups, List.flatten_append, List.flatten_cons, List.range_eq_range'] at hflatten
  obtain ⟨count, -, hbefore, hafter⟩ := List.range'_eq_append_iff.1 hflatten.symm
  have hhead := congrArg List.head? hafter
  simp only [List.head?_append, List.head?_range'] at hhead
  rw [if_neg (Nat.sub_ne_zero_of_lt h.nonempty), Option.some_or] at hhead
  split at hhead
  next => cases hhead
  next => rw [hbefore, List.length_range', Option.some.inj hhead, Nat.zero_add, Nat.mul_one]

/-- Shuffled within sections, the places of a section are in some order where they were. -/
theorem extract_presentationOrder_perm [Source σ] {questions : List Question} {start stop : Nat}
    (h : IsSection Question.isSectionBreak questions start stop) (state : σ) :
    ((presentationOrder questions true true state).1.extract start stop).Perm
      (List.range' start (stop - start)) := by
  obtain ⟨before, after, hgroups, hlength⟩ := exists_questionGroups_eq h
  obtain ⟨left, middle, right, heq, hleft, hmiddle⟩ :=
    exists_shuffleGroups_eq before after (List.range' start (stop - start)) state
  have horder : (presentationOrder questions true true state).1 = left ++ (middle ++ right) := by
    rw [presentationOrder, if_pos rfl, hgroups, heq]
  have hstop : middle.length = stop - start := by rw [hmiddle.length_eq, List.length_range']
  rw [horder, List.extract_eq_take_drop, List.drop_left' (hleft.trans hlength),
    List.take_left' hstop]
  exact hmiddle

/-- Shuffled within sections, the section breaks keep their number and their order. -/
theorem filter_presentationOrder [Source σ] (questions : List Question) (state : σ) :
    (presentationOrder questions true true state).1.filter
        (breakAt Question.isSectionBreak questions) =
      (List.range questions.length).filter (breakAt Question.isSectionBreak questions) := by
  rw [presentationOrder, if_pos rfl, ← flatten_questionGroups questions true]
  refine filter_arrangeGroups _ (fun group hgroup => ?_) _
  obtain ⟨start, stop, hsection, rfl⟩ := mem_questionGroups_iff.1 hgroup
  exact hsection.length_filter_breakAt_le

/-- Every question is in a section. -/
theorem exists_isSection {questions : List Question} {place : Nat}
    (h : place < questions.length) :
    ∃ start stop, IsSection Question.isSectionBreak questions start stop ∧
      start ≤ place ∧ place < stop := by
  have hmem : place ∈ (questionGroups questions true).flatten := by
    rw [flatten_questionGroups]
    exact List.mem_range.2 h
  obtain ⟨group, hgroup, hplace⟩ := List.mem_flatten.1 hmem
  obtain ⟨start, stop, hsection, rfl⟩ := mem_questionGroups_iff.1 hgroup
  exact ⟨start, stop, hsection, hsection.mem_range'_iff.1 hplace⟩

/-- Shuffled within sections, a question is presented at a place of the section that it is in. -/
theorem exists_isSection_of_presented [Source σ] {questions : List Question} {state : σ}
    {place index : Nat}
    (h : (presentationOrder questions true true state).1[place]? = some index) :
    ∃ start stop, IsSection Question.isSectionBreak questions start stop ∧
      (start ≤ place ∧ place < stop) ∧ start ≤ index ∧ index < stop := by
  obtain ⟨hlt, -⟩ := List.getElem?_eq_some_iff.1 h
  rw [(presentationOrder_perm questions true true state).length_eq, List.length_range] at hlt
  obtain ⟨start, stop, hsection, hstart, hstop⟩ := exists_isSection hlt
  -- The question stands among those at the places of the section that its place is in.
  have hmem : index ∈ (presentationOrder questions true true state).1.extract start stop := by
    refine List.mem_of_getElem? (i := place - start) ?_
    rw [List.extract_eq_take_drop, List.getElem?_take, if_pos (by omega), List.getElem?_drop,
      Nat.add_sub_cancel' hstart, h]
  rw [(extract_presentationOrder_perm hsection state).mem_iff, hsection.mem_range'_iff] at hmem
  exact ⟨start, stop, hsection, ⟨hstart, hstop⟩, hmem⟩

/-- Whatever is drawn, the order of presentation has each question once, and it is the authored
order unless questions are shuffled. If they are shuffled within sections, the places of a section
hold the questions of that section, in some order. So each question is presented in its section, and
the section breaks keep their number and their order. -/
theorem presentationOrder_keeps_sections [Source σ] (questions : List Question)
    (randomize respectSections : Bool) (state : σ) :
    (presentationOrder questions randomize respectSections state).1.Perm
        (List.range questions.length) ∧
      (randomize = false → (presentationOrder questions randomize respectSections state).1 =
        List.range questions.length) ∧
      (randomize = true → respectSections = true →
        (∀ start stop, IsSection Question.isSectionBreak questions start stop →
          ((presentationOrder questions randomize respectSections state).1.extract start stop).Perm
            (List.range' start (stop - start))) ∧
        (presentationOrder questions randomize respectSections state).1.filter
            (breakAt Question.isSectionBreak questions) =
          (List.range questions.length).filter (breakAt Question.isSectionBreak questions) ∧
        ∀ place index,
          (presentationOrder questions randomize respectSections state).1[place]? = some index →
            ∃ start stop, IsSection Question.isSectionBreak questions start stop ∧
              (start ≤ place ∧ place < stop) ∧ start ≤ index ∧ index < stop) := by
  refine ⟨presentationOrder_perm questions randomize respectSections state, ?_, ?_⟩
  · rintro rfl
    rfl
  · rintro rfl rfl
    exact ⟨fun _ _ hsection => extract_presentationOrder_perm hsection state,
      filter_presentationOrder questions state, fun _ _ => exists_isSection_of_presented⟩

/-- A survey of a house: two questions, a break with two questions after it, and a break at the
end. -/
def tourQuestions : List Question :=
  [{ id := "street", body := .openText {} }, { id := "floor", body := .openText {} },
   { id := "rooms", body := .sectionBreak }, { id := "kitchen", body := .openText {} },
   { id := "bath", body := .openText {} }, { id := "thanks", body := .sectionBreak }]

/-- A source from which nothing but zeros are drawn. -/
inductive Zeros where
  /-- The one state. -/
  | again

instance : Source Zeros where
  below _ state := (0, state)
  below_lt _ _ h := h

/-- The break before the rooms is presented after them, and still before the one at the end. -/
theorem presentationOrder_keeps_sections_tourQuestions :
    IsSection Question.isSectionBreak tourQuestions 2 5 ∧
      (presentationOrder tourQuestions true true Zeros.again).1 = [1, 0, 3, 4, 2, 5] ∧
      ((presentationOrder tourQuestions true true Zeros.again).1.extract 2 5).Perm [2, 3, 4] := by
  have hsection : IsSection Question.isSectionBreak tourQuestions 2 5 :=
    mem_sections_iff.1 (by decide)
  obtain ⟨-, -, hshuffled⟩ := presentationOrder_keeps_sections tourQuestions true true Zeros.again
  exact ⟨hsection, by decide, (hshuffled rfl rfl).1 2 5 hsection⟩

end Questionnaire
