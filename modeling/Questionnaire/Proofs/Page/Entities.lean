import Questionnaire.Proofs.Page.Escaping
import Questionnaire.Proofs.Page.Tags

/-!
# Entities

Escaping is described here in one pass, with what stands for each character (`inMarkup`); the
replacements of one character after another come to the same (`escapeChars_eq_flatMap`).

Of the characters with a meaning in markup, an escaped text has none but ampersands, and these are
where entities start (`startsEntity_of_suffix`). It is read back entity by entity
(`unescape_escape`), also from an attribute, where the value ends at the next quote
(`readValue_escapeChars`). So texts that differ are escaped differently, and they differ as values
of an attribute too (`escape_lossless`).
-/

namespace Questionnaire.Page

/-! ## One pass -/

/-- What stands for a character in markup. -/
def inMarkup : Char → List Char
  | '&' => "&amp;".toList
  | '<' => "&lt;".toList
  | '>' => "&gt;".toList
  | '"' => "&quot;".toList
  | '\'' => "&#39;".toList
  | c => [c]

/-- A character is escaped by what stands for it. -/
theorem escapeChar_eq_inMarkup (c : Char) : escapeChar c = inMarkup c := by
  unfold inMarkup
  split
  case h_6 hamp hlt hgt hquot hapos =>
    refine escapeChar_of_not_mem fun hc => ?_
    rcases mem_map_fst_entities.1 hc with h | h | h | h | h
    exacts [hamp h, hlt h, hgt h, hquot h, hapos h]
  all_goals rfl

/-- The replacements one after the other come to one pass. -/
theorem escapeChars_eq_flatMap (cs : List Char) : escapeChars cs = cs.flatMap inMarkup := by
  induction cs with
  | nil => rfl
  | cons c cs ih => rw [escapeChars_cons, escapeChar_eq_inMarkup, ih, List.flatMap_cons]

/-! ## Ampersands -/

/-- The entities of an escaped text. -/
def entityTexts : List String :=
  ["&amp;", "&lt;", "&gt;", "&quot;", "&#39;"]

/-- A text starts with an entity. -/
def StartsEntity (cs : List Char) : Prop :=
  ∃ entity ∈ entityTexts, entity.toList <+: cs

/-- In an entity there is one ampersand, at its start. -/
theorem exists_toList_eq_cons {entity : String} (h : entity ∈ entityTexts) :
    ∃ body, entity.toList = '&' :: body ∧ '&' ∉ body := by
  have hall : ∀ entity ∈ entityTexts,
      entity.toList = '&' :: entity.toList.tail ∧ '&' ∉ entity.toList.tail := by
    decide
  exact ⟨_, hall entity h⟩

/-- A character is escaped by an entity or, if it is no ampersand, by itself. -/
theorem escapeChar_eq_or (c : Char) :
    (∃ entity ∈ entityTexts, escapeChar c = entity.toList) ∨ c ≠ '&' ∧ escapeChar c = [c] := by
  by_cases hc : c ∈ entities.map Prod.fst
  · left
    rcases mem_map_fst_entities.1 hc with rfl | rfl | rfl | rfl | rfl
    all_goals decide
  · exact .inr ⟨fun hamp => hc (mem_map_fst_entities.2 (.inl hamp)), escapeChar_of_not_mem hc⟩

/-- Every ampersand in an escaped text starts an entity. -/
theorem startsEntity_of_suffix {cs tail : List Char} (h : '&' :: tail <:+ escapeChars cs) :
    StartsEntity ('&' :: tail) := by
  induction cs with
  | nil => cases List.suffix_nil.1 h
  | cons c cs ih =>
    rw [escapeChars_cons] at h
    rcases escapeChar_eq_or c with ⟨entity, hentity, heq⟩ | ⟨hamp, heq⟩
    · obtain ⟨body, hbody, hnone⟩ := exists_toList_eq_cons hentity
      rw [heq, hbody, List.cons_append] at h
      -- The ampersand is that of the entity, or it comes after the entity.
      rcases List.suffix_cons_iff.1 h with hwhole | hlater
      · exact ⟨entity, hentity, by rw [hbody, hwhole]; exact List.prefix_append _ _⟩
      · exact ih (Text.suffix_of_suffix_append hnone hlater)
    · rw [heq] at h
      exact ih (Text.suffix_of_suffix_append (by simpa using hamp.symm) h)

/-! ## Reading back -/

/-- The text that an escaped text is read as. -/
def unescape (s : String) : String :=
  String.ofList (unescapeChars s.toList)

/-- An escaped text is read as the text. -/
theorem unescape_escape (s : String) : unescape (escape s) = s := by
  rw [unescape, escape, String.toList_ofList, unescapeChars_escapeChars, String.ofList_toList]

theorem escape_inj {s t : String} : escape s = escape t ↔ s = t :=
  ⟨fun h => by rw [← unescape_escape s, h, unescape_escape], fun h => by rw [h]⟩

/-- The value of an attribute as it is read from after the first quote: it goes up to the next. -/
def readValue (cs : List Char) : String :=
  String.ofList (unescapeChars (cs.takeWhile (· ≠ '"')))

/-- The value of an attribute is read as the value, whatever comes after it. -/
theorem readValue_escapeChars (value : String) (rest : List Char) :
    readValue (escapeChars value.toList ++ '"' :: rest) = value := by
  have hquoteless : ∀ c ∈ escapeChars value.toList, decide (c ≠ '"') = true := fun c hc =>
    decide_eq_true (ne_of_mem_of_not_mem hc (not_mem_escapeChars _ (by decide)))
  rw [readValue, List.takeWhile_append_of_pos hquoteless, List.takeWhile_cons_of_neg (by decide),
    List.append_nil, unescapeChars_escapeChars, String.ofList_toList]

/-- Where two attributes of one name are written alike, they have the same value, and the same comes
after them. -/
theorem write_attr_append_inj {name value other : String} {rest rest' : List Char} :
    (attr name value).write ++ rest = (attr name other).write ++ rest' ↔
      value = other ∧ rest = rest' := by
  refine ⟨fun h => ?_, fun ⟨hvalue, hrest⟩ => by rw [hvalue, hrest]⟩
  have hquoted : escapeChars value.toList ++ '"' :: rest =
      escapeChars other.toList ++ '"' :: rest' := by
    simpa [attr, Attribute.write] using h
  obtain rfl : value = other := by
    rw [← readValue_escapeChars value rest, hquoted, readValue_escapeChars]
  exact ⟨rfl, List.append_cancel_left h⟩

/-- Escaping puts an entity for each character with a meaning in markup and keeps all others. What
comes out has none of these characters but ampersands that start an entity, and it is read as the
text. So different texts are escaped differently, and in a page they are different values of an
attribute. -/
theorem escape_lossless (s : String) :
    (escape s).toList = s.toList.flatMap inMarkup ∧
      (∀ c ∈ (escape s).toList, c ≠ '<' ∧ c ≠ '>' ∧ c ≠ '"' ∧ c ≠ '\'') ∧
      (∀ before after, (escape s).toList = before ++ '&' :: after → StartsEntity ('&' :: after)) ∧
      unescape (escape s) = s ∧
      (∀ t, escape s = escape t ↔ s = t) ∧
      ∀ name t rest rest',
        (attr name s).write ++ rest = (attr name t).write ++ rest' ↔ s = t ∧ rest = rest' := by
  have hescape : (escape s).toList = escapeChars s.toList := String.toList_ofList
  refine ⟨?_, ?_, ?_, unescape_escape s, fun _ => escape_inj, fun _ _ _ _ => write_attr_append_inj⟩
  · rw [hescape, escapeChars_eq_flatMap]
  · intro c hc
    rw [hescape] at hc
    refine ⟨?_, ?_, ?_, ?_⟩
    all_goals exact ne_of_mem_of_not_mem hc (not_mem_escapeChars _ (by decide))
  · intro before after heq
    rw [hescape] at heq
    exact startsEntity_of_suffix ⟨before, heq.symm⟩

end Questionnaire.Page
