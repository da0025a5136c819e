import Questionnaire.Proofs.Shuffle.Sections

/-!
# Sections part a list

The sections of a list are given as ranges of places. What these ranges are together is said here
without the scan that finds them: none is empty, they follow one another without gaps from the start
of the list to its end, each but the first starts at a break, and none has a break at a later place
(`PartsAtBreaks`). The sections are such ranges, and no other ranges are (`sections_partsAtBreaks`):
two tilings of a list that have nothing but sections in them are the same, since only one section
starts at a place (`Tiles.eq_of_isSection`).
-/

namespace Questionnaire

variable {α : Type} {isBreak : α → Bool} {xs : List α}

/-! ## Tilings by sections -/

/-- No two sections start at one place. -/
theorem IsSection.stop_unique {start stop other : Nat} (h : IsSection isBreak xs start stop)
    (hother : IsSection isBreak xs start other) : stop = other := by
  have hopen : OpenSection isBreak xs start stop :=
    ⟨Nat.le_of_lt h.nonempty, h.bounded, h.opens, h.inner⟩
  exact (hopen.eq_of_isSection h.closes hother (Nat.le_refl start) h.nonempty).2.symm

/-- There is only one way to tile with sections. -/
theorem Tiles.eq_of_isSection {start stop : Nat} {ranges others : List (Nat × Nat)}
    (h : Tiles start stop ranges) (hothers : Tiles start stop others)
    (hsections : ∀ range ∈ ranges, IsSection isBreak xs range.1 range.2)
    (hsections' : ∀ range ∈ others, IsSection isBreak xs range.1 range.2) : ranges = others := by
  induction h generalizing others with
  | nil => exact (hothers.eq_nil_iff.2 rfl).symm
  | cons first rest ih =>
    cases hothers with
    | nil => exact absurd (Nat.lt_of_lt_of_le first rest.start_le_stop) (Nat.lt_irrefl _)
    | cons first' rest' =>
      obtain ⟨hfirst, hrest⟩ := List.forall_mem_cons.1 hsections
      obtain ⟨hfirst', hrest'⟩ := List.forall_mem_cons.1 hsections'
      obtain rfl := hfirst.stop_unique hfirst'
      rw [ih rest' hrest hrest']

/-! ## Parts of a list -/

/-- Ranges of places that part a list at its breaks. -/
structure PartsAtBreaks (isBreak : α → Bool) (xs : List α) (ranges : List (Nat × Nat)) : Prop where
  /-- No range is empty. -/
  nonempty : ∀ range ∈ ranges, range.1 < range.2
  /-- The ranges are in increasing order. -/
  increasing : ranges.Pairwise fun a b => a.2 ≤ b.1
  /-- Each range starts where the one before it ends. -/
  contiguous : ranges.IsChain fun a b => a.2 = b.1
  /-- The first range starts where the list starts. -/
  starts : ∀ range ∈ ranges.head?, range.1 = 0
  /-- The last range ends where the list ends. -/
  ends : ∀ range ∈ ranges.getLast?, range.2 = xs.length
  /-- There is no range exactly if the list is empty. -/
  eq_nil_iff : ranges = [] ↔ xs = []
  /-- Each range but the first starts at a break. -/
  opens : ∀ range ∈ ranges.tail, breakAt isBreak xs range.1 = true
  /-- No range has a break at a place after its first. -/
  inner : ∀ range ∈ ranges, ∀ place, range.1 < place → place < range.2 →
    breakAt isBreak xs place = false

/-- The sections part the list. -/
theorem partsAtBreaks_sections (isBreak : α → Bool) (xs : List α) :
    PartsAtBreaks isBreak xs (sections isBreak xs) where
  nonempty _ hrange := ((tiles_sections isBreak xs).bounds hrange).2.1
  increasing := (tiles_sections isBreak xs).pairwise
  contiguous := (tiles_sections isBreak xs).isChain
  starts := (tiles_sections isBreak xs).head_eq
  ends := (tiles_sections isBreak xs).getLast_eq
  eq_nil_iff := by
    rw [(tiles_sections isBreak xs).eq_nil_iff, eq_comm, List.length_eq_zero_iff]
  opens range hrange := by
    have hsection := mem_sections_iff.1 (List.mem_of_mem_tail hrange)
    have hlater : 0 < range.1 := (tiles_sections isBreak xs).lt_of_mem_tail hrange
    exact hsection.opens.resolve_left (Nat.ne_of_gt hlater)
  inner _ hrange := (mem_sections_iff.1 hrange).inner

namespace PartsAtBreaks

variable {ranges : List (Nat × Nat)}

theorem tiles (h : PartsAtBreaks isBreak xs ranges) : Tiles 0 xs.length ranges :=
  .of_isChain h.nonempty h.contiguous h.starts h.ends fun hnil => by rw [h.eq_nil_iff.1 hnil]; rfl

/-- The parts of a list are sections. -/
theorem isSection (h : PartsAtBreaks isBreak xs ranges) {range : Nat × Nat}
    (hrange : range ∈ ranges) : IsSection isBreak xs range.1 range.2 := by
  refine ⟨h.nonempty range hrange, (h.tiles.bounds hrange).2.2, ?_, h.inner range hrange, ?_⟩
  all_goals obtain ⟨before, after, rfl⟩ := List.append_of_mem hrange
  · cases before with
    | nil => exact .inl (h.starts range rfl)
    | cons first before => exact .inr (h.opens range (by simp))
  · cases after with
    | nil => exact .inl (h.ends range (by simp))
    | cons next after =>
      -- The range that follows is not the first one, so it starts at a break.
      have hnext : next ∈ (before ++ range :: next :: after).tail := by
        cases before <;> simp
      have hmeet : range.2 = next.1 :=
        (List.isChain_cons_cons.1 h.contiguous.right_of_append).1
      exact .inr (hmeet ▸ h.opens next hnext)

end PartsAtBreaks

/-- The sections of a list part it at its breaks, and nothing else does. Read one after the other,
their items are the list. -/
theorem sections_partsAtBreaks (isBreak : α → Bool) (xs : List α) :
    PartsAtBreaks isBreak xs (sections isBreak xs) ∧
      (∀ ranges, PartsAtBreaks isBreak xs ranges → ranges = sections isBreak xs) ∧
      (sectionItems isBreak xs).flatten = xs := by
  refine ⟨partsAtBreaks_sections isBreak xs, fun ranges hranges => ?_, ?_⟩
  · exact hranges.tiles.eq_of_isSection (tiles_sections isBreak xs)
      (fun _ hrange => hranges.isSection hrange) (fun _ hrange => mem_sections_iff.1 hrange)
  · simp only [sectionItems, ← List.extract_eq_take_drop]
    exact flatten_extract_sections isBreak rfl

/-- A break at the start opens no section of its own before it, and two breaks in a row make one. -/
example : sections (· == '|') ['|', 'a', '|', '|'] = [(0, 2), (2, 3), (3, 4)] := by decide

end Questionnaire
