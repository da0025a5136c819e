import Questionnaire.Page.Markup
import Questionnaire.Proofs.Text.Occurrence

/-!
# Tags that are not taken for others

The survey stands in a page after a tag of its own, and a reader of the page looks for the first
place where that tag is written. No text of the survey can imitate it: in escaped text there is no
`<` (`not_mem_escapeChars`). What remains are the tags that the page itself writes. Each of them
differs from that of the survey early, in the name of the element or of its first attribute, and
which names a tag has does not depend on the survey. So whether a token is `Tame`, that is, whether
no tag of the survey starts in it, can be told from the names alone (`isOtherTag`).
-/

namespace Questionnaire.Page

/-! ## Escaped text -/

/-- A character replaced is not left, unless it is put in again. -/
theorem mem_substitute {c x : Char} {replacement cs : List Char} :
    x ∈ substitute c replacement cs ↔ c ∈ cs ∧ x ∈ replacement ∨ x ∈ cs ∧ x ≠ c := by
  rw [substitute, List.mem_flatMap]
  constructor
  · rintro ⟨y, hy, hx⟩
    split at hx
    next heq => exact .inl ⟨heq ▸ hy, hx⟩
    next hne =>
      obtain rfl := List.mem_singleton.1 hx
      exact .inr ⟨hy, hne⟩
  · rintro (⟨hc, hx⟩ | ⟨hx, hne⟩)
    · exact ⟨c, hc, by rwa [if_pos rfl]⟩
    · exact ⟨x, hx, by simp [hne]⟩

/-- Of the characters with a meaning in markup, only the ampersand stands in escaped text. -/
theorem not_mem_escapeChars (cs : List Char) {c : Char} (hc : c ∈ ['<', '>', '"', '\'']) :
    c ∉ escapeChars cs := by
  simp only [List.mem_cons, List.not_mem_nil, or_false] at hc
  rcases hc with rfl | rfl | rfl | rfl
  all_goals simp [escapeChars, entities, mem_substitute]

/-- An attribute is written with its name first. -/
theorem Attribute.prefix_write (a : Attribute) : ' ' :: a.name.toList <+: a.write := by
  unfold Attribute.write
  cases a.value with
  | none => exact List.prefix_rfl
  | some value => exact List.cons_prefix_cons.2 ⟨rfl, List.prefix_append _ _⟩

/-- No tag starts in an attribute, unless one starts in its name. -/
theorem Attribute.not_mem_write {a : Attribute} (h : '<' ∉ a.name.toList) : '<' ∉ a.write := by
  unfold Attribute.write
  cases a.value with
  | none => simp [h]
  | some value => simp [h, not_mem_escapeChars]

/-! ## Names of tags -/

/-- What follows the `<` in the tag that the survey stands after. -/
def surveyMark : List Char :=
  "script type=\"application/json\" id=\"survey-definition\">".toList

/-- What follows the `<` in the tag of an element whose first attribute, if it has any, is of the
given name: the name of the element, and that of the attribute or the end of the tag. -/
def tagHead (element : String) (first : Option String) : List Char :=
  element.toList ++ match first with
    | some name => ' ' :: name.toList
    | none => ['>']

/-- Whether the tag of an element whose first attribute is of the given name differs from the tag of
the survey in its head, and no other tag starts in its head. -/
def isOtherTag (element : String) (first : Option String) : Bool :=
  let head := tagHead element first
  let surveyHead := tagHead "script" (some "type")
  !head.isPrefixOf surveyHead && !surveyHead.isPrefixOf head && !head.contains '<'

/-- A tag is written with its head first. -/
theorem starts_with_tagHead (element : String) (attributes : List Attribute) :
    tagHead element (attributes.head?.map Attribute.name) <+:
      element.toList ++ attributes.flatMap Attribute.write ++ ['>'] := by
  cases attributes with
  | nil => simp [tagHead]
  | cons a rest =>
    rw [List.flatMap_cons, List.append_assoc, List.append_assoc]
    exact (List.prefix_append_right_inj _).2 (a.prefix_write.trans (List.prefix_append _ _))

/-- No tag starts in the names of the attributes. -/
def Plain (attributes : List Attribute) : Prop :=
  ∀ a ∈ attributes, '<' ∉ a.name.toList

@[simp]
theorem plain_nil : Plain [] :=
  List.forall_mem_nil _

@[simp]
theorem plain_cons {a : Attribute} {attributes : List Attribute} :
    Plain (a :: attributes) ↔ '<' ∉ a.name.toList ∧ Plain attributes :=
  List.forall_mem_cons

@[simp]
theorem plain_append {attributes others : List Attribute} :
    Plain (attributes ++ others) ↔ Plain attributes ∧ Plain others :=
  List.forall_mem_append

@[simp]
theorem attr_name (name value : String) : (attr name value).name = name :=
  rfl

/-! ## Tame tokens -/

/-- No tag of the survey starts in the token, whatever follows it. -/
def Token.Tame (token : Token) : Prop :=
  Text.Tame ('<' :: surveyMark) token.write

/-- What goes on otherwise than with the first letter of the mark is tame. -/
theorem tame_of_ne {c : Char} {cs : List Char} (hc : c ≠ 's') (hcs : '<' ∉ c :: cs) :
    Text.Tame ('<' :: surveyMark) ('<' :: c :: cs) := by
  have hsurvey : ['s'] <+: surveyMark := by decide
  refine Text.tame_cons hsurvey (List.prefix_append [c] cs) ?_ hcs
  simp [hc, hc.symm]

namespace Token

/-- A tag that differs in its head is tame. -/
theorem tame_start {element : String} {attributes : List Attribute}
    (h : isOtherTag element (attributes.head?.map Attribute.name) = true)
    (hplain : Plain attributes) : (start element attributes).Tame := by
  simp only [isOtherTag, Bool.and_eq_true, Bool.not_eq_true', Bool.eq_false_iff, ne_eq,
    List.isPrefixOf_iff_prefix, List.contains_iff_mem] at h
  obtain ⟨hapart, hhead⟩ := h
  -- After its head a tag has names of attributes and escaped values alone.
  have helement : '<' ∉ element.toList := fun hmem => hhead (List.mem_append_left _ hmem)
  have hsurvey : tagHead "script" (some "type") <+: surveyMark := by decide
  refine Text.tame_cons hsurvey (starts_with_tagHead element attributes) hapart ?_
  simp only [List.mem_append, List.mem_flatMap, List.mem_singleton, not_or, not_exists, not_and]
  exact ⟨⟨helement, fun a ha => Attribute.not_mem_write (hplain a ha)⟩, by decide⟩

/-- A tag without attributes is tame if it is another. -/
@[simp]
theorem tame_start_nil {element : String} (h : isOtherTag element none = true) :
    (start element []).Tame :=
  tame_start h plain_nil

/-- A tag is tame if it is another, which its first attribute tells. -/
@[simp]
theorem tame_start_attr {element name value : String} {rest : List Attribute}
    (h : isOtherTag element (some name) = true) (hname : '<' ∉ name.toList) (hrest : Plain rest) :
    (start element (attr name value :: rest)).Tame :=
  tame_start h (plain_cons.2 ⟨hname, hrest⟩)

/-- The end of an element is tame. -/
@[simp]
theorem tame_stop {element : String} (h : '<' ∉ element.toList) : (stop element).Tame :=
  tame_of_ne (by decide) (by simp [h])

/-- Text is tame. -/
@[simp]
theorem tame_text (content : String) : (text content).Tame :=
  Text.tame_of_not_mem (not_mem_escapeChars _ (by decide))

/-- Markup without tags is tame. -/
@[simp]
theorem tame_fixed {markup : String} (h : '<' ∉ markup.toList) : (fixed markup).Tame :=
  Text.tame_of_not_mem h

end Token

/-- No tag of the survey starts in the tokens, whatever follows them. -/
def Tame (tokens : List Token) : Prop :=
  ∀ token ∈ tokens, token.Tame

/-- In tame tokens the tag of the survey is not written. -/
theorem Tame.write {tokens : List Token} (h : Tame tokens) :
    Text.Tame ('<' :: surveyMark) (tokens.flatMap Token.write) :=
  Text.tame_flatMap h

@[simp]
theorem tame_nil : Tame [] :=
  List.forall_mem_nil _

@[simp]
theorem tame_cons {token : Token} {tokens : List Token} :
    Tame (token :: tokens) ↔ token.Tame ∧ Tame tokens :=
  List.forall_mem_cons

@[simp]
theorem tame_append {tokens others : List Token} :
    Tame (tokens ++ others) ↔ Tame tokens ∧ Tame others :=
  List.forall_mem_append

@[simp]
theorem tame_flatMap {α : Type} {f : α → List Token} {xs : List α} :
    Tame (xs.flatMap f) ↔ ∀ x ∈ xs, Tame (f x) :=
  List.forall_mem_flatMap

@[simp]
theorem tame_element {name : String} {attributes : List Attribute} {content : List Token} :
    Tame (element name attributes content) ↔
      (Token.start name attributes).Tame ∧ Tame content ∧ (Token.stop name).Tame := by
  simp [element]

@[simp]
theorem tame_line {indent : ℕ} {tokens : List Token} : Tame (line indent tokens) ↔ Tame tokens := by
  have hblank : '<' ∉ List.replicate indent ' ' := fun h => by
    cases List.eq_of_mem_replicate h
  simp +decide [line, hblank]

end Questionnaire.Page
