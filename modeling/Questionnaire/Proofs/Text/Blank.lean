import Mathlib.Data.List.TakeWhile
import Questionnaire.Text.Blank

/-!
# Blank texts

A text is blank when every character of it is, which is when trimming leaves nothing of it
(`isBlank_iff_trim_eq`). Digits are not blank (`isBlankChar_eq_false_of_isDigit`), so no text with a
digit in it is (`isBlank_eq_false_of_mem`).
-/

namespace Questionnaire.Text

/-- Nothing is left of a text without its leading blanks exactly when it has blanks alone. -/
theorem dropBlank_eq_nil_iff {cs : List Char} :
    dropBlank cs = [] ↔ ∀ c ∈ cs, isBlankChar c = true :=
  List.dropWhile_eq_nil_iff

/-- What is dropped at the start of a text is blank. -/
theorem forall_mem_dropBlank_iff {cs : List Char} :
    (∀ c ∈ dropBlank cs, isBlankChar c = true) ↔ ∀ c ∈ cs, isBlankChar c = true := by
  induction cs with
  | nil => rfl
  | cons c rest ih =>
    unfold dropBlank at ih ⊢
    by_cases hc : isBlankChar c = true
    · rw [List.dropWhile_cons_of_pos hc, ih]
      simp [hc]
    · rw [List.dropWhile_cons_of_neg hc]

/-- A text is blank exactly when it trims to nothing. -/
theorem isBlank_iff_trim_eq {s : String} : isBlank s = true ↔ trim s = "" := by
  rw [trim, String.ofList_eq_empty_iff, List.reverse_eq_nil_iff, dropBlank_eq_nil_iff, isBlank,
    List.all_eq_true, ← forall_mem_dropBlank_iff]
  simp only [List.mem_reverse]

/-- No digit is blank. -/
theorem isBlankChar_eq_false_of_isDigit {c : Char} (h : c.isDigit = true) :
    isBlankChar c = false := by
  obtain ⟨hlow, hhigh⟩ := Char.isDigit_iff_toNat.1 h
  have hlow' : 48 ≤ c.toNat := hlow
  have hhigh' : c.toNat ≤ 57 := hhigh
  simp only [isBlankChar, blankRanges, List.any_cons, List.any_nil, Bool.or_eq_false_iff,
    Bool.and_eq_false_iff, decide_eq_false_iff_not, and_true]
  omega

/-- A text with a character that is not blank is not blank. -/
theorem isBlank_eq_false_of_mem {s : String} {c : Char} (hc : c ∈ s.toList)
    (h : isBlankChar c = false) : isBlank s = false := by
  refine Bool.eq_false_iff.2 fun hblank => ?_
  rw [isBlank, List.all_eq_true] at hblank
  rw [hblank c hc] at h
  cases h

end Questionnaire.Text
