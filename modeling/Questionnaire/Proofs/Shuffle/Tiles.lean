import Mathlib.Data.List.Chain
import Questionnaire.Shuffle

/-!
# Tiles

Ranges that follow one another without gaps tile the places from the start of the first to the end
of the last (`Tiles`). The scan for sections finds such ranges: from the start of the section that
is open, what it finds tiles the rest of the list (`tiles_sectionsFrom`). What is taken range by
range and can be put together where ranges meet is, for all sections, what is taken for the whole
list (`Tiles.flatten_map`), be it places (`Tiles.flatten_range'`) or items
(`Tiles.flatten_extract`).
-/

namespace Questionnaire

variable {α β : Type}

/-! ## Tiles -/

/-- Ranges that are not empty and follow one another without gaps from one place to another. -/
inductive Tiles : Nat → Nat → List (Nat × Nat) → Prop where
  /-- There is no range where there is no place. -/
  | nil (stop : Nat) : Tiles stop stop []
  /-- A range comes first, and the others go on where it ends. -/
  | cons {start mid stop : Nat} {ranges : List (Nat × Nat)} (first : start < mid)
    (rest : Tiles mid stop ranges) : Tiles start stop ((start, mid) :: ranges)

namespace Tiles

variable {start stop : Nat} {ranges : List (Nat × Nat)}

theorem start_le_stop (h : Tiles start stop ranges) : start ≤ stop := by
  induction h with
  | nil => exact Nat.le_refl _
  | cons first _ ih => exact Nat.le_trans (Nat.le_of_lt first) ih

/-- Every range has a place, and its places are between the two. -/
theorem bounds (h : Tiles start stop ranges) {range : Nat × Nat} (hrange : range ∈ ranges) :
    start ≤ range.1 ∧ range.1 < range.2 ∧ range.2 ≤ stop := by
  induction h with
  | nil => cases hrange
  | cons first rest ih =>
    rcases List.mem_cons.1 hrange with rfl | hrange
    · exact ⟨Nat.le_refl _, first, rest.start_le_stop⟩
    · obtain ⟨hstart, hlt, hstop⟩ := ih hrange
      exact ⟨Nat.le_trans (Nat.le_of_lt first) hstart, hlt, hstop⟩

theorem lt_of_mem_tail (h : Tiles start stop ranges) {range : Nat × Nat}
    (hrange : range ∈ ranges.tail) : start < range.1 := by
  cases h with
  | nil => cases hrange
  | cons first rest => exact Nat.lt_of_lt_of_le first (rest.bounds hrange).1

theorem eq_nil_iff (h : Tiles start stop ranges) : ranges = [] ↔ start = stop := by
  cases h with
  | nil => simp
  | cons first rest => simp [Nat.ne_of_lt (Nat.lt_of_lt_of_le first rest.start_le_stop)]

theorem pairwise (h : Tiles start stop ranges) : ranges.Pairwise fun a b => a.2 ≤ b.1 := by
  induction h with
  | nil => exact .nil
  | cons _ rest ih => exact .cons (fun _ hrange => (rest.bounds hrange).1) ih

theorem head_eq (h : Tiles start stop ranges) : ∀ range ∈ ranges.head?, range.1 = start := by
  cases h with
  | nil => simp
  | cons first rest => simp

theorem isChain (h : Tiles start stop ranges) : ranges.IsChain fun a b => a.2 = b.1 := by
  induction h with
  | nil => exact .nil
  | cons _ rest ih => exact List.isChain_cons.2 ⟨fun _ hrange => (rest.head_eq _ hrange).symm, ih⟩

theorem getLast_eq (h : Tiles start stop ranges) : ∀ range ∈ ranges.getLast?, range.2 = stop := by
  induction h with
  | nil => simp
  | cons first rest ih =>
    cases rest with
    | nil => simp
    | cons next others => simpa [List.getLast?_cons_cons] using ih

/-- Ranges of which each starts where the one before it ends are tiles. -/
theorem of_isChain (hnonempty : ∀ range ∈ ranges, range.1 < range.2)
    (hchain : ranges.IsChain fun a b => a.2 = b.1) (hhead : ∀ range ∈ ranges.head?, range.1 = start)
    (hlast : ∀ range ∈ ranges.getLast?, range.2 = stop) (hnil : ranges = [] → start = stop) :
    Tiles start stop ranges := by
  induction ranges generalizing start with
  | nil =>
    rw [hnil rfl]
    exact .nil stop
  | cons range rest ih =>
    obtain ⟨hnext, hchain⟩ := List.isChain_cons.1 hchain
    obtain ⟨hlt, hnonempty⟩ := List.forall_mem_cons.1 hnonempty
    obtain rfl : range.1 = start := hhead range rfl
    refine .cons hlt (ih hnonempty hchain (fun next hmem => (hnext next hmem).symm) ?_ ?_)
    · intro last hmem
      exact hlast last (by simp [List.getLast?_cons, Option.mem_def.1 hmem])
    · rintro rfl
      exact hlast range rfl

/-- If what is taken for two ranges that meet is what is taken for both in one, then what is taken
for all ranges is what is taken for the whole. -/
theorem flatten_map (h : Tiles start stop ranges) (take : Nat → Nat → List α)
    (hnil : ∀ place, take place place = [])
    (happend : ∀ {start mid stop}, start ≤ mid → mid ≤ stop →
      take start mid ++ take mid stop = take start stop) :
    (ranges.map fun range => take range.1 range.2).flatten = take start stop := by
  induction h with
  | nil => exact (hnil _).symm
  | cons first rest ih =>
    rw [List.map_cons, List.flatten_cons, ih, happend (Nat.le_of_lt first) rest.start_le_stop]

/-- The places of all ranges, read one after the other, are the places between the two. -/
theorem flatten_range' (h : Tiles start stop ranges) :
    (ranges.map fun range => List.range' range.1 (range.2 - range.1)).flatten =
      List.range' start (stop - start) := by
  refine h.flatten_map (fun start stop => List.range' start (stop - start))
    (fun place => by simp) fun {start mid stop} hmid hstop => ?_
  have hlength : stop - start = (mid - start) + (stop - mid) := by omega
  rw [hlength, ← List.range'_append_1, Nat.add_sub_cancel' hmid]

/-- The parts of a list in all ranges, read one after the other, are the part between the two. -/
theorem flatten_extract (h : Tiles start stop ranges) (xs : List α) :
    (ranges.map fun range => xs.extract range.1 range.2).flatten = xs.extract start stop := by
  refine h.flatten_map (fun start stop => xs.extract start stop)
    (fun place => by simp) fun {start mid stop} hmid hstop => ?_
  have hlength : stop - start = (mid - start) + (stop - mid) := by omega
  simp only [List.extract_eq_take_drop]
  rw [hlength, List.take_add, List.drop_drop, Nat.add_sub_cancel' hmid]

end Tiles

/-! ## The scan tiles the list -/

/-- From the start of the section that is open, the scan tiles the rest of the list. -/
theorem tiles_sectionsFrom (isBreak : α → Bool) (rest : List α) {first index : Nat}
    (h : first ≤ index) :
    Tiles first (index + rest.length) (sectionsFrom isBreak first index rest) := by
  induction rest generalizing first index with
  | nil =>
    rw [sectionsFrom]
    split
    next hlt => exact .cons hlt (.nil index)
    next hnone =>
      obtain rfl : first = index := Nat.le_antisymm h (Nat.le_of_not_lt hnone)
      exact .nil first
  | cons x rest ih =>
    have hlength : index + (x :: rest).length = index + 1 + rest.length := by
      rw [List.length_cons]
      omega
    rw [sectionsFrom, hlength]
    split
    next hcloses =>
      -- A break closes the open section and opens the next.
      obtain ⟨-, hlt⟩ : isBreak x = true ∧ first < index := by simpa using hcloses
      exact .cons hlt (ih (Nat.le_succ index))
    next => exact ih (Nat.le_succ_of_le h)

/-- The scan tiles the list. -/
theorem tiles_sections (isBreak : α → Bool) (xs : List α) :
    Tiles 0 xs.length (sections isBreak xs) := by
  simpa [sections] using tiles_sectionsFrom isBreak xs (Nat.le_refl 0)

/-- The parts of a list at the places of the sections of one that is as long are the list when they
are read one after the other. -/
theorem flatten_extract_sections (isBreak : α → Bool) {xs : List α} {ys : List β}
    (h : xs.length = ys.length) :
    ((sections isBreak xs).map fun range => ys.extract range.1 range.2).flatten = ys := by
  rw [(tiles_sections isBreak xs).flatten_extract, h, List.extract_eq_take_drop, List.drop_zero,
    Nat.sub_zero, List.take_length]

end Questionnaire
