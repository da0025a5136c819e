import Questionnaire.Proofs.Page.Escaping
import Questionnaire.Proofs.Page.Tags

/-!
# Names of radio buttons

A browser takes the radio buttons of one name for a group, of which at most one is on. Which names
there are is read from the text of a page: a name stands between quotes after each place where the
tag of a button starts (`radioNames`). In tokens the names can be read from the attributes
(`Token.radioName?`). Both readings agree where the tokens are regular, that is, where the names of
elements and attributes are words and no tag is hidden in fixed markup
(`HasButtons.radioNames_render`): the texts of a survey are escaped, so none of them can pass for a
button or end a name early.
-/

namespace Questionnaire.Page

/-! ## Reading a text -/

/-- What stands before the name of a radio button. -/
def radioMark : List Char :=
  "<input type=\"radio\" name=\"".toList

/-- The names of the radio buttons in a text, as they are written. -/
def radioNames : List Char → List (List Char)
  | [] => []
  | c :: cs =>
    if radioMark <+: c :: cs then
      ((c :: cs).drop radioMark.length).takeWhile (· ≠ '"') :: radioNames cs
    else radioNames cs

variable {cs rest : List Char}

/-- Nothing is read where no button starts. -/
theorem radioNames_of_clear (h : Text.Clear radioMark rest cs) :
    radioNames (cs ++ rest) = radioNames rest := by
  induction h with
  | nil => rfl
  | cons hstart _ ih => rw [List.cons_append, radioNames, if_neg hstart, ih]

/-- Nothing is read in a text without tags. -/
theorem radioNames_of_not_mem (h : '<' ∉ cs) : radioNames (cs ++ rest) = radioNames rest :=
  radioNames_of_clear (Text.tame_of_not_mem h rest)

/-- From the tag of a button its name is read, up to the quote, and nothing else. -/
theorem radioNames_radioMark {name more : List Char} (hname : '"' ∉ name)
    (htag : '<' ∉ name ++ '"' :: more) :
    radioNames (radioMark ++ (name ++ '"' :: more) ++ rest) = name :: radioNames rest := by
  have hcut : (name ++ '"' :: (more ++ rest)).takeWhile (· ≠ '"') = name := by
    have hquoteless : ∀ c ∈ name, decide (c ≠ '"') = true := fun c hc =>
      decide_eq_true (ne_of_mem_of_not_mem hc hname)
    rw [List.takeWhile_append_of_pos hquoteless, List.takeWhile_cons_of_neg (by decide),
      List.append_nil]
  have htail : '<' ∉ radioMark.tail ++ (name ++ '"' :: more) := by
    rw [List.mem_append, not_or]
    exact ⟨by decide, htag⟩
  have hcons : radioMark ++ (name ++ '"' :: more) ++ rest =
      '<' :: (radioMark.tail ++ (name ++ '"' :: more) ++ rest) := rfl
  rw [hcons, radioNames, if_pos, radioNames_of_not_mem htail, ← hcons, List.append_assoc,
    List.drop_left, List.append_assoc, List.cons_append, hcut]
  rw [← hcons, List.append_assoc]
  exact List.prefix_append _ _

/-! ## Regular tokens -/

/-- Whether a character can stand in the name of an element or an attribute. -/
def isNameChar (c : Char) : Bool :=
  c.isAlphanum || c = '-'

/-- Whether a text can be the name of an element or an attribute. -/
def isName (s : String) : Bool :=
  s.toList.all isNameChar

/-- Whether the names of elements and attributes are such and no tag is hidden in fixed markup. -/
def Token.isRegular : Token → Bool
  | .start element attributes => isName element && attributes.all fun a => isName a.name
  | .stop element => isName element
  | .text _ => true
  | .fixed markup => !markup.toList.contains '<'

/-- The name of a radio button, if the token is the tag of one. -/
def Token.radioName? : Token → Option String
  | .start element (kind :: name :: _) =>
    if element = "input" ∧ kind = attr "type" "radio" ∧ name.name = "name" then name.value
    else none
  | _ => none

namespace Token

/-- The tag of a radio button has its type first and its name after that. -/
theorem radioName?_eq_some_iff {token : Token} {name : String} :
    token.radioName? = some name ↔
      ∃ others, token = start "input" (attr "type" "radio" :: attr "name" name :: others) := by
  constructor
  · intro h
    unfold radioName? at h
    split at h
    next element kind second others =>
      split at h
      next heq =>
        obtain ⟨rfl, rfl, hsecond⟩ := heq
        obtain ⟨secondName, value⟩ := second
        obtain rfl : secondName = "name" := hsecond
        obtain rfl : value = some name := h
        exact ⟨others, rfl⟩
      next => cases h
    next => cases h
  · rintro ⟨others, rfl⟩
    simp [radioName?, attr]

/-- A radio button has its name. -/
@[simp]
theorem radioName?_button (name : String) (others : List Attribute) :
    (start "input" (attr "type" "radio" :: attr "name" name :: others)).radioName? = some name :=
  radioName?_eq_some_iff.2 ⟨others, rfl⟩

/-- The tag of an element that is no input is not that of a radio button. -/
@[simp]
theorem radioName?_of_ne_input {element : String} (h : element ≠ "input")
    (attributes : List Attribute) : (start element attributes).radioName? = none := by
  refine Option.eq_none_iff_forall_ne_some.2 fun name hname => ?_
  obtain ⟨others, heq⟩ := radioName?_eq_some_iff.1 hname
  exact h (start.inj heq).1

/-- An input of another type is not a radio button. -/
@[simp]
theorem radioName?_of_ne_radio {type : String} (h : type ≠ "radio") (others : List Attribute) :
    (start "input" (attr "type" type :: others)).radioName? = none := by
  refine Option.eq_none_iff_forall_ne_some.2 fun name hname => ?_
  obtain ⟨more, heq⟩ := radioName?_eq_some_iff.1 hname
  obtain ⟨hkind, -⟩ := List.cons.inj (start.inj heq).2
  exact h (Option.some.inj (Attribute.mk.inj hkind).2)

@[simp]
theorem radioName?_stop (element : String) : (stop element).radioName? = none :=
  rfl

@[simp]
theorem radioName?_text (content : String) : (text content).radioName? = none :=
  rfl

@[simp]
theorem radioName?_fixed (markup : String) : (fixed markup).radioName? = none :=
  rfl

@[simp]
theorem isRegular_start (element : String) (attributes : List Attribute) :
    (start element attributes).isRegular =
      (isName element && attributes.all fun a => isName a.name) :=
  rfl

/-- A tag is regular if all its names are such. -/
theorem isRegular_start_iff {element : String} {attributes : List Attribute} :
    (start element attributes).isRegular = true ↔
      isName element = true ∧ ∀ a ∈ attributes, isName a.name = true := by
  rw [isRegular_start, Bool.and_eq_true, List.all_eq_true]

@[simp]
theorem isRegular_stop (element : String) : (stop element).isRegular = isName element :=
  rfl

@[simp]
theorem isRegular_text (content : String) : (text content).isRegular = true :=
  rfl

end Token

/-! ## Tags cut at their names -/

/-- A text that starts with a word and a character that ends it starts another such text only if the
words are the same. -/
theorem word_eq_of_prefix {inWord : Char → Bool} {word other more : List Char} {c d : Char}
    (hword : ∀ x ∈ word, inWord x = true) (hother : ∀ x ∈ other, inWord x = true)
    (hc : inWord c = false) (hd : inWord d = false)
    (h : word ++ c :: more <+: other ++ d :: rest) : word = other ∧ c :: more <+: d :: rest := by
  -- Along both words: they go on alike or end together, as no word has what ends the other.
  induction word generalizing other with
  | nil =>
    cases other with
    | nil => exact ⟨rfl, h⟩
    | cons y other =>
      obtain ⟨rfl, -⟩ := List.cons_prefix_cons.1 h
      simp [hother] at hc
  | cons x word ih =>
    cases other with
    | nil =>
      obtain ⟨rfl, -⟩ := List.cons_prefix_cons.1 h
      simp [hword] at hd
    | cons y other =>
      obtain ⟨rfl, htail⟩ := List.cons_prefix_cons.1 h
      obtain ⟨rfl, hends⟩ := ih (fun x hx => hword x (List.mem_cons_of_mem _ hx))
        (fun x hx => hother x (List.mem_cons_of_mem _ hx)) htail
      exact ⟨rfl, hends⟩

/-- No name goes on in what a tag goes on with after it, and no value starts there. -/
theorem exists_eq_cons_tagEnd (attributes : List Attribute) (rest : List Char) :
    ∃ c more, attributes.flatMap Attribute.write ++ '>' :: rest = c :: more ∧
      isNameChar c = false ∧ c ≠ '=' := by
  cases attributes with
  | nil => exact ⟨'>', rest, rfl, by decide, by decide⟩
  | cons a others =>
    obtain ⟨more, hmore⟩ := a.prefix_write
    exact ⟨' ', _, by rw [List.flatMap_cons, ← hmore]; rfl, by decide, by decide⟩

/-- A tag goes on with a named value only in an attribute of the name. -/
theorem exists_attr_of_prefix {attributes : List Attribute} {name : String} {more : List Char}
    (hregular : ∀ a ∈ attributes, isName a.name = true) (hname : isName name = true)
    (h : ' ' :: (name.toList ++ '=' :: '"' :: more) <+:
      attributes.flatMap Attribute.write ++ '>' :: rest) :
    ∃ value others, attributes = attr name value :: others ∧
      more <+: escapeChars value.toList ++ '"' ::
        (others.flatMap Attribute.write ++ '>' :: rest) := by
  cases attributes with
  | nil => simp at h
  | cons a others =>
    obtain ⟨aName, aValue⟩ := a
    have haName : isName aName = true := hregular _ List.mem_cons_self
    cases aValue with
    | none =>
      -- After a name without a value another attribute or the end of the tag comes at once.
      obtain ⟨c, after, hafter, hc, hne⟩ := exists_eq_cons_tagEnd others rest
      simp only [List.flatMap_cons, Attribute.write, List.cons_append, List.append_assoc, hafter,
        List.cons_prefix_cons, true_and] at h
      obtain ⟨-, hends⟩ := word_eq_of_prefix (List.all_eq_true.1 hname) (List.all_eq_true.1 haName)
        (by decide) hc h
      exact absurd (List.cons_prefix_cons.1 hends).1.symm hne
    | some value =>
      simp only [List.flatMap_cons, Attribute.write, List.cons_append, List.append_assoc,
        List.cons_prefix_cons, true_and] at h
      obtain ⟨heq, hends⟩ := word_eq_of_prefix (List.all_eq_true.1 hname)
        (List.all_eq_true.1 haName) (by decide) (by decide) h
      obtain rfl : name = aName := String.toList_inj.1 heq
      refine ⟨value, others, rfl, ?_⟩
      simpa using hends

/-- The mark of a radio button, cut at its names and the value of its first attribute. -/
theorem radioMark_eq : radioMark = '<' :: ("input".toList ++ ' ' :: ("type".toList ++ '=' :: '"' ::
    (escapeChars "radio".toList ++ '"' :: ' ' :: ("name".toList ++ '=' :: '"' :: [])))) := by
  decide

/-- The tag of a radio button is written with the mark first and its name after that. -/
theorem write_button (name : String) (others : List Attribute) :
    (Token.start "input" (attr "type" "radio" :: attr "name" name :: others)).write =
      radioMark ++ (escapeChars name.toList ++
        '"' :: (others.flatMap Attribute.write ++ ['>'])) := by
  rw [radioMark_eq]
  simp only [Token.write, Attribute.write, attr, List.flatMap_cons, List.cons_append,
    List.append_assoc, List.nil_append]

/-- A regular tag that starts with the mark of a radio button has its type and a name. -/
theorem exists_name_of_prefix {element : String} {attributes : List Attribute}
    (hregular : (Token.start element attributes).isRegular = true)
    (h : radioMark <+: (Token.start element attributes).write ++ rest) :
    ∃ name others, element = "input" ∧
      attributes = attr "type" "radio" :: attr "name" name :: others := by
  obtain ⟨helement, hattributes⟩ := Token.isRegular_start_iff.1 hregular
  -- The name of the element ends where the first attribute begins, ...
  obtain ⟨c, after, hafter, hc, -⟩ := exists_eq_cons_tagEnd attributes rest
  rw [radioMark_eq] at h
  simp only [Token.write, List.cons_append, List.append_assoc, List.nil_append, hafter,
    List.cons_prefix_cons, true_and] at h
  have hword : isName "input" = true := by decide
  obtain ⟨hinput, htype⟩ := word_eq_of_prefix (List.all_eq_true.1 hword)
    (List.all_eq_true.1 helement) (by decide) hc h
  -- ... the value of that reaches up to the quote, ...
  rw [← hafter] at htype
  obtain ⟨value, others, rfl, hvalue⟩ := exists_attr_of_prefix hattributes (by decide) htype
  have hquoteless : ∀ value : String, ∀ c ∈ escapeChars value.toList, (c != '"') = true :=
    fun value c hc => bne_iff_ne.2
      (ne_of_mem_of_not_mem hc (not_mem_escapeChars value.toList (by decide)))
  obtain ⟨hradio, hname⟩ := word_eq_of_prefix (hquoteless "radio") (hquoteless value)
    (by decide) (by decide) hvalue
  -- ... and after it comes the name.
  obtain ⟨name, others, rfl, -⟩ := exists_attr_of_prefix
    (List.forall_mem_cons.1 hattributes).2 (by decide) (List.cons_prefix_cons.1 hname).2
  obtain rfl : "radio" = value := String.toList_inj.1 (escapeChars_injective hradio)
  exact ⟨name, others, (String.toList_inj.1 hinput).symm, rfl⟩

/-! ## Reading a token -/

/-- No tag starts in a name. -/
theorem not_mem_of_isName {name : String} (h : isName name = true) : '<' ∉ name.toList :=
  fun hmem => absurd (List.all_eq_true.1 h _ hmem) (by decide)

/-- In a regular tag no other tag starts. -/
theorem not_mem_tail_write {element : String} {attributes : List Attribute}
    (hregular : (Token.start element attributes).isRegular = true) :
    '<' ∉ (Token.start element attributes).write.tail := by
  obtain ⟨helement, hattributes⟩ := Token.isRegular_start_iff.1 hregular
  simp only [Token.write, List.tail_cons, List.mem_append, List.mem_flatMap, List.mem_singleton,
    not_or, not_exists, not_and]
  exact ⟨⟨not_mem_of_isName helement, fun a ha =>
    Attribute.not_mem_write (not_mem_of_isName (hattributes a ha))⟩, by decide⟩

/-- No radio button starts in a regular token that is not the tag of one. -/
theorem Token.clear_write {token : Token} (hregular : token.isRegular = true)
    (hnone : token.radioName? = none) (rest : List Char) :
    Text.Clear radioMark rest token.write := by
  cases token with
  | start element attributes =>
    refine .cons (fun hstart => ?_) (Text.tame_of_not_mem (not_mem_tail_write hregular) rest)
    obtain ⟨name, others, rfl, rfl⟩ := exists_name_of_prefix hregular hstart
    rw [radioName?_eq_some_iff.2 ⟨others, rfl⟩] at hnone
    cases hnone
  | stop element =>
    have htail : '<' ∉ '/' :: (element.toList ++ ['>']) := by
      simpa using not_mem_of_isName hregular
    have hapart : ¬ ['/'] <+: ['i'] ∧ ¬ ['i'] <+: ['/'] := by decide
    exact Text.tame_cons (by decide : ['i'] <+: radioMark.tail) (List.prefix_append _ _) hapart
      htail rest
  | text content => exact Text.tame_of_not_mem (not_mem_escapeChars _ (by decide)) rest
  | fixed markup =>
    refine Text.tame_of_not_mem (fun hmem : '<' ∈ markup.toList => ?_) rest
    simp [isRegular, hmem] at hregular

/-- From a regular token the name is read that its attributes give, and nothing else. -/
theorem Token.radioNames_write {token : Token} (hregular : token.isRegular = true)
    (rest : List Char) : radioNames (token.write ++ rest) =
      (token.radioName?.map fun name => escapeChars name.toList).toList ++ radioNames rest := by
  cases hname : token.radioName? with
  | none => exact radioNames_of_clear (clear_write hregular hname rest)
  | some name =>
    obtain ⟨others, rfl⟩ := radioName?_eq_some_iff.1 hname
    have htail := not_mem_tail_write hregular
    rw [write_button] at htail ⊢
    exact radioNames_radioMark (not_mem_escapeChars _ (by decide)) fun hmem =>
      htail (List.mem_append_right radioMark.tail hmem)

/-! ## Tokens one after the other -/

/-- The names of the radio buttons among tokens, button by button. -/
def buttons (tokens : List Token) : List String :=
  tokens.filterMap Token.radioName?

@[simp]
theorem buttons_nil : buttons [] = [] :=
  rfl

@[simp]
theorem buttons_cons (token : Token) (tokens : List Token) :
    buttons (token :: tokens) = token.radioName?.toList ++ buttons tokens := by
  rw [buttons, List.filterMap_cons]
  cases token.radioName? <;> rfl

@[simp]
theorem buttons_append (tokens others : List Token) :
    buttons (tokens ++ others) = buttons tokens ++ buttons others :=
  List.filterMap_append

@[simp]
theorem buttons_flatMap {α : Type} (xs : List α) (f : α → List Token) :
    buttons (xs.flatMap f) = xs.flatMap fun x => buttons (f x) :=
  List.filterMap_flatMap

@[simp]
theorem buttons_element (name : String) (attributes : List Attribute) (content : List Token) :
    buttons (element name attributes content) =
      (Token.start name attributes).radioName?.toList ++ buttons content := by
  simp [element]

@[simp]
theorem buttons_line (indent : ℕ) (tokens : List Token) :
    buttons (line indent tokens) = buttons tokens := by
  simp [line]

@[simp]
theorem all_isRegular_element (name : String) (attributes : List Attribute)
    (content : List Token) : (element name attributes content).all Token.isRegular =
      ((Token.start name attributes).isRegular && content.all Token.isRegular) := by
  cases hname : isName name <;> simp [element, hname]

@[simp]
theorem all_isRegular_line (indent : ℕ) (tokens : List Token) :
    (line indent tokens).all Token.isRegular = tokens.all Token.isRegular := by
  have hblank : '<' ∉ List.replicate indent ' ' := fun h => by
    cases List.eq_of_mem_replicate h
  simp +decide [line, Token.isRegular, hblank]

/-- The tokens are regular, and the radio buttons among them have the given names. -/
structure HasButtons (tokens : List Token) (names : List String) : Prop where
  /-- Every token is regular. -/
  regular : tokens.all Token.isRegular = true
  /-- The buttons have the names, one after the other. -/
  buttons_eq : buttons tokens = names

namespace HasButtons

variable {tokens others : List Token} {names more : List String}

theorem nil : HasButtons [] [] :=
  ⟨rfl, rfl⟩

/-- Tokens one after the other have the buttons of both. -/
theorem append (h : HasButtons tokens names) (hothers : HasButtons others more) :
    HasButtons (tokens ++ others) (names ++ more) where
  regular := by rw [List.all_append, h.regular, hothers.regular, Bool.and_self]
  buttons_eq := by rw [buttons_append, h.buttons_eq, hothers.buttons_eq]

/-- Whatever follows the tokens, the names of their buttons are read from them. -/
theorem radioNames_append (h : HasButtons tokens names) (rest : List Char) :
    radioNames (tokens.flatMap Token.write ++ rest) =
      names.map (fun name => escapeChars name.toList) ++ radioNames rest := by
  obtain ⟨hregular, rfl⟩ := h
  -- Along the tokens: what is read from one does not depend on those after it.
  induction tokens with
  | nil => rfl
  | cons token tokens ih =>
    rw [List.all_cons, Bool.and_eq_true] at hregular
    obtain ⟨htoken, htokens⟩ := hregular
    rw [List.flatMap_cons, List.append_assoc, Token.radioNames_write htoken, ih htokens,
      buttons_cons]
    cases token.radioName? <;> rfl

/-- From the written tokens the names of the buttons are read. -/
theorem radioNames_render (h : HasButtons tokens names) :
    radioNames (render tokens).toList = names.map fun name => escapeChars name.toList := by
  rw [render, String.toList_ofList]
  simpa [radioNames] using h.radioNames_append []

end HasButtons

end Questionnaire.Page
