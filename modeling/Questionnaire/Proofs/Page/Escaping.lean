import Mathlib.Logic.Function.Basic
import Questionnaire.Page.Markup

/-!
# Escaping loses nothing

The replacements of one character after another come to one pass over the text, in which every
character is written on its own (`escapeChars_cons`): no entity holds a character that is replaced
after it. So the text can be read back from what is written for it, entity by entity
(`unescapeChars_escapeChars`), and different texts are written differently
(`escapeChars_injective`).
-/

namespace Questionnaire.Page

/-! ## Character by character -/

/-- A character as it is written in markup. -/
def escapeChar (c : Char) : List Char :=
  (entities.lookup c).getD [c]

/-- The characters that are replaced. -/
theorem mem_map_fst_entities {c : Char} :
    c ∈ entities.map Prod.fst ↔ c = '&' ∨ c = '<' ∨ c = '>' ∨ c = '"' ∨ c = '\'' := by
  simp [entities]

/-- A character that is not replaced is written as it is. -/
theorem escapeChar_of_not_mem {c : Char} (h : c ∉ entities.map Prod.fst) : escapeChar c = [c] := by
  have hnone : entities.lookup c = none :=
    List.lookup_eq_none_iff.2 fun entity hentity => bne_iff_ne.2 fun hc =>
      h (hc ▸ List.mem_map_of_mem hentity)
  rw [escapeChar, hnone, Option.getD_none]

/-- A single character is escaped as it is written, whichever replacements come first. -/
theorem escapeChars_singleton (c : Char) : escapeChars [c] = escapeChar c := by
  by_cases hc : c ∈ entities.map Prod.fst
  · rcases mem_map_fst_entities.1 hc with rfl | rfl | rfl | rfl | rfl
    all_goals rfl
  · rw [escapeChar_of_not_mem hc]
    simp only [mem_map_fst_entities, not_or] at hc
    obtain ⟨hamp, hlt, hgt, hquot, hapos⟩ := hc
    simp [escapeChars, entities, substitute, *]

/-- A text is escaped character by character. -/
@[simp]
theorem escapeChars_cons (c : Char) (cs : List Char) :
    escapeChars (c :: cs) = escapeChar c ++ escapeChars cs := by
  rw [← escapeChars_singleton]
  simp only [escapeChars, entities, substitute, List.foldl_cons, List.foldl_nil,
    ← List.flatMap_append, List.singleton_append]

/-! ## Reading back -/

/-- The text with a character for each entity. -/
def unescapeChars : List Char → List Char
  | '&' :: 'a' :: 'm' :: 'p' :: ';' :: cs => '&' :: unescapeChars cs
  | '&' :: 'l' :: 't' :: ';' :: cs => '<' :: unescapeChars cs
  | '&' :: 'g' :: 't' :: ';' :: cs => '>' :: unescapeChars cs
  | '&' :: 'q' :: 'u' :: 'o' :: 't' :: ';' :: cs => '"' :: unescapeChars cs
  | '&' :: '#' :: '3' :: '9' :: ';' :: cs => '\'' :: unescapeChars cs
  | c :: cs => c :: unescapeChars cs
  | [] => []

/-- What is written for a character is read as the character. -/
theorem unescapeChars_escapeChar (c : Char) (cs : List Char) :
    unescapeChars (escapeChar c ++ cs) = c :: unescapeChars cs := by
  by_cases hc : c ∈ entities.map Prod.fst
  · rcases mem_map_fst_entities.1 hc with rfl | rfl | rfl | rfl | rfl
    all_goals rfl
  · have hamp : c ≠ '&' := fun heq => hc (mem_map_fst_entities.2 (.inl heq))
    rw [escapeChar_of_not_mem hc]
    simp [unescapeChars, hamp]

/-- A text is read back from what is written for it. -/
theorem unescapeChars_escapeChars (cs : List Char) : unescapeChars (escapeChars cs) = cs := by
  induction cs with
  | nil => rfl
  | cons c cs ih => rw [escapeChars_cons, unescapeChars_escapeChar, ih]

/-- Different texts are written differently. -/
theorem escapeChars_injective : Function.Injective escapeChars :=
  Function.LeftInverse.injective unescapeChars_escapeChars

end Questionnaire.Page
