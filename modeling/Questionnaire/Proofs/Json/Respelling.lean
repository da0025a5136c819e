import Questionnaire.Proofs.Json.RoundTrip

/-!
# Strings spelled otherwise

A string can be spelled in several ways. A text is a respelling of another (`Respelled`) when some
of the other's `<` are written by their number in it, and some of the slashes after a `<` are
escaped. Outside strings neither character can stand in JSON, so whatever the reader reads of a text
it reads of every respelling of it (`Respelled.parse?_eq_some`).

The proof goes along the reader. Each part of it is shown to give the same value for the respelling
as for the text, and a rest that is a respelling of the text's rest, so the parts can be put
together as the reader puts them. The fuel may be more for the respelling, which can be the longer
text.
-/

namespace Questionnaire.Json

/-- The second text is the first with some `<` written by their number and some slashes after a `<`
escaped. -/
inductive Respelled : List Char → List Char → Prop where
  /-- There is nothing to spell. -/
  | nil : Respelled [] []
  /-- A character is written as it was. -/
  | same (c : Char) {cs ds : List Char} (rest : Respelled cs ds) : Respelled (c :: cs) (c :: ds)
  /-- The slash after a `<` is escaped. -/
  | slash {cs ds : List Char} (rest : Respelled cs ds) :
    Respelled ('<' :: '/' :: cs) ('<' :: '\\' :: '/' :: ds)
  /-- A `<` is written by its number. -/
  | number {cs ds : List Char} (rest : Respelled cs ds) :
    Respelled ('<' :: cs) ('\\' :: 'u' :: '0' :: '0' :: '3' :: 'c' :: ds)

namespace Respelled

variable {cs ds rest : List Char} {c : Char}

/-- Any other character than `<` is written as it was. -/
theorem exists_cons (h : Respelled (c :: cs) ds) (hc : c ≠ '<') :
    ∃ rest, ds = c :: rest ∧ Respelled cs rest := by
  cases h with
  | same _ rest => exact ⟨_, rfl, rest⟩
  | slash => exact absurd rfl hc
  | number => exact absurd rfl hc

/-- What has no `<` is written as it was. -/
theorem exists_append (written : List Char) (h : Respelled (written ++ cs) ds)
    (hwritten : '<' ∉ written) : ∃ rest, ds = written ++ rest ∧ Respelled cs rest := by
  induction written generalizing ds with
  | nil => exact ⟨ds, rfl, h⟩
  | cons c written ih =>
    rw [List.mem_cons, not_or] at hwritten
    obtain ⟨ds, rfl, htail⟩ := h.exists_cons (Ne.symm hwritten.1)
    obtain ⟨rest, rfl, hrest⟩ := ih htail hwritten.2
    exact ⟨rest, rfl, hrest⟩

/-- A respelling starts with no other character than the text, but for a backslash. -/
theorem head?_ne (h : Respelled cs ds) (hc : c ≠ '\\') (hne : cs.head? ≠ some c) :
    ds.head? ≠ some c := by
  cases h with
  | nil => exact hne
  | same => exact hne
  | slash => exact hne
  | number => simpa using hc.symm

/-- A respelling and the text start with a character both, and go on as they do, or neither. -/
theorem head_cases (h : Respelled cs ds) (c : Char) (hc : c ≠ '<' ∧ c ≠ '\\') :
    (∃ cs' ds', cs = c :: cs' ∧ ds = c :: ds' ∧ Respelled cs' ds') ∨
      cs.head? ≠ some c ∧ ds.head? ≠ some c := by
  by_cases hhead : cs.head? = some c
  · obtain ⟨cs, rfl⟩ := List.head?_eq_some_iff.1 hhead
    obtain ⟨ds, rfl, htail⟩ := h.exists_cons hc.1
    exact .inl ⟨cs, ds, rfl, rfl, htail⟩
  · exact .inr ⟨hhead, h.head?_ne hc.2 hhead⟩

/-- What a respelling starts with, the text starts with, unless there is a backslash in it. -/
theorem prefix_left (h : Respelled cs ds) {part : List Char} (hpart : '\\' ∉ part)
    (hds : part <+: ds) : part <+: cs := by
  induction h generalizing part with
  | nil => exact hds
  | same c rest ih =>
    cases part with
    | nil => exact List.nil_prefix
    | cons d part =>
      obtain ⟨rfl, htail⟩ := List.cons_prefix_cons.1 hds
      exact List.cons_prefix_cons.2 ⟨rfl, ih (List.not_mem_of_not_mem_cons hpart) htail⟩
  | slash rest =>
    match part, hpart, hds with
    | [], _, _ => exact List.nil_prefix
    | [d], _, hds => simpa using hds
    | d :: e :: _, hpart, hds =>
      obtain ⟨-, hds⟩ := List.cons_prefix_cons.1 hds
      obtain ⟨rfl, -⟩ := List.cons_prefix_cons.1 hds
      simp at hpart
  | number rest =>
    cases part with
    | nil => exact List.nil_prefix
    | cons d part =>
      obtain ⟨rfl, -⟩ := List.cons_prefix_cons.1 hds
      simp at hpart

/-- What starts with a `<` and stands in a respelling stands in the text, unless there is a
backslash in it. -/
theorem infix_left (h : Respelled cs ds) {part : List Char} (hpart : '\\' ∉ part)
    (hds : '<' :: part <:+: ds) : '<' :: part <:+: cs := by
  have hstart : ∀ {cs ds : List Char}, Respelled cs ds → '<' :: part <+: ds → '<' :: part <:+: cs :=
    fun h hds => (h.prefix_left (by simpa using hpart) hds).isInfix
  induction h with
  | nil => exact hds
  | same c rest ih =>
    rcases List.infix_cons_iff.1 hds with hds | hds
    · exact hstart (.same c rest) hds
    · exact (ih hds).trans (List.suffix_cons _ _).isInfix
  | @slash cs ds rest ih =>
    rcases List.infix_cons_iff.1 hds with hds | hds
    · exact hstart (.slash rest) hds
    · have hds : '<' :: part <:+: ds := by simpa [List.infix_cons_iff] using hds
      exact (ih hds).trans (List.suffix_append ['<', '/'] cs).isInfix
  | @number cs ds rest ih =>
    -- There is no `<` in the number, so the part starts after it.
    have hds : '<' :: part <:+: ds := by simpa [List.infix_cons_iff] using hds
    exact (ih hds).trans (List.suffix_cons _ _).isInfix

/-- Blanks are skipped alike. -/
theorem skipSpace (h : Respelled cs ds) : Respelled (skipSpace cs) (skipSpace ds) := by
  induction h with
  | nil => exact .nil
  | same c rest ih =>
    by_cases hc : isSpace c = true
    · rw [Json.skipSpace, Json.skipSpace, List.dropWhile_cons_of_pos hc,
        List.dropWhile_cons_of_pos hc]
      exact ih
    · rw [Bool.not_eq_true] at hc
      rw [skipSpace_cons hc, skipSpace_cons hc]
      exact .same c rest
  | slash rest => exact .slash rest
  | number rest => exact .number rest

end Respelled

/-! ## Strings -/

/-- Two parts of a string are the same, or a `<` and its number. -/
inductive SamePart : TextPart → TextPart → Prop where
  /-- The parts are the same. -/
  | refl (part : TextPart) : SamePart part part
  /-- The second is the number of `<`. -/
  | number : SamePart (.char '<') (.unit '<'.toNat)

/-- The number of `<` spells it. -/
theorem spell?_number (parts : List TextPart) :
    spell? (.unit '<'.toNat :: parts) = (spell? parts).map ('<' :: ·) :=
  spell?_unit (by decide) (by decide) parts

/-- Half a surrogate pair without the other half after it spells nothing. -/
theorem spell?_half {code : Nat} (hcode : (isHighSurrogate code || isLowSurrogate code) = true)
    {parts : List TextPart}
    (h : ∀ low rest, parts = .unit low :: rest → isHighSurrogate code = true →
      isLowSurrogate low = false) : spell? (.unit code :: parts) = none := by
  match parts, h with
  | [], _ | .char _ :: _, _ => simp [spell?, hcode]
  | .unit low :: rest, h =>
    cases hhigh : isHighSurrogate code with
    | false =>
      rw [hhigh, Bool.false_or] at hcode
      simp [spell?, hhigh, hcode]
    | true => simp [spell?, hhigh, h low rest rfl hhigh]

/-- The same parts spell the same. -/
theorem spell?_eq_of_same {parts others : List TextPart} (h : List.Forall₂ SamePart parts others) :
    spell? others = spell? parts := by
  fun_induction spell? parts generalizing others with
  | case1 =>
    cases h
    rfl
  | case2 c rest ih =>
    cases h with
    | cons hpart hrest =>
      cases hpart with
      | refl => rw [spell?, ih hrest]
      | number => rw [spell?_number, ih hrest]
  | case3 high low rest hpair ih =>
    rcases h with _ | ⟨⟨_⟩, _ | ⟨⟨_⟩, hrest⟩⟩
    rw [spell?, if_pos hpair, ih hrest]
  | case4 high low rest hpair hhalf =>
    rcases h with _ | ⟨⟨_⟩, _ | ⟨⟨_⟩, hrest⟩⟩
    rw [spell?, if_neg hpair, if_pos hhalf]
  | case5 high low rest hpair hhalf ih =>
    rcases h with _ | ⟨⟨_⟩, _ | ⟨⟨_⟩, hrest⟩⟩
    rw [spell?, if_neg hpair, if_neg hhalf, ih (.cons (.refl _) hrest)]
  | case6 code rest halone hhalf =>
    rcases h with _ | ⟨⟨_⟩, hrest⟩
    refine spell?_half hhalf fun low others hothers _ => ?_
    subst hothers
    -- A number after the half is not the other half: it is that of `<`.
    cases hrest with
    | cons hpart _ =>
      cases hpart with
      | refl => exact (halone _ _ rfl).elim
      | number => decide
  | case7 code rest halone hwhole ih =>
    rcases h with _ | ⟨⟨_⟩, hrest⟩
    rw [Bool.or_eq_true, not_or, Bool.not_eq_true, Bool.not_eq_true] at hwhole
    rw [spell?_unit hwhole.1 hwhole.2, ih hrest]

/-- The character is no hexadecimal digit. -/
theorem codeUnit?_ne {a b c d : Char} {code : ℕ} (h : codeUnit? a b c d = some code) :
    '<' ∉ [a, b, c, d] := by
  have hnone : ∀ {c : Char} {n : ℕ}, hexValue? c = some n → '<' ≠ c := by
    rintro c n hvalue rfl
    cases hvalue
  simp only [codeUnit?, Option.bind_eq_bind, Option.bind_eq_some_iff] at h
  obtain ⟨_, ha, _, hb, _, hc, _, hd, -⟩ := h
  simp [hnone ha, hnone hb, hnone hc, hnone hd]

/-- After a first part that is the same, the parts scanned are the same if those of the rest are. -/
theorem scanned_cons {part other : TextPart} {parts : List TextPart} {ds more rest : List Char}
    (hpart : SamePart part other)
    (hds : scanText ds = (scanText more).map fun p => (other :: p.1, p.2))
    (h : ∃ others left, scanText more = some (others, left) ∧
      List.Forall₂ SamePart parts others ∧ Respelled rest left) :
    ∃ others left, scanText ds = some (others, left) ∧
      List.Forall₂ SamePart (part :: parts) others ∧ Respelled rest left := by
  obtain ⟨others, left, hscan, hparts, hrest⟩ := h
  refine ⟨other :: others, left, ?_, .cons hpart hparts, hrest⟩
  rw [hds, hscan, Option.map_some]

/-- Of a respelling the same parts are scanned as of the text. -/
theorem Respelled.scanText {cs ds rest : List Char} {parts : List TextPart} (h : Respelled cs ds)
    (hscan : scanText cs = some (parts, rest)) :
    ∃ others more, Json.scanText ds = some (others, more) ∧ List.Forall₂ SamePart parts others ∧
      Respelled rest more := by
  fun_induction Json.scanText cs generalizing ds parts with
  | case1 => cases hscan
  | case2 rest' =>
    cases hscan
    obtain ⟨ds, rfl, hrest⟩ := h.exists_cons (by decide)
    exact ⟨[], ds, rfl, .nil, hrest⟩
  | case3 a b c d cs ih =>
    simp only [Option.bind_eq_bind, Option.bind_eq_some_iff, Prod.exists] at hscan
    obtain ⟨code, hcode, parts, left, hparts, heq⟩ := hscan
    cases heq
    have hdigits : '<' ∉ ['\\', 'u', a, b, c, d] := by simpa using codeUnit?_ne hcode
    obtain ⟨ds, rfl, hrest⟩ := exists_append ['\\', 'u', a, b, c, d] h hdigits
    exact scanned_cons (.refl _) (scanText_unit hcode ds) (ih hrest hparts)
  | case4 mark cs hmark ih =>
    simp only [Option.bind_eq_bind, Option.bind_eq_some_iff, Prod.exists] at hscan
    obtain ⟨c, hshort, parts, left, hparts, heq⟩ := hscan
    cases heq
    have hmarks : '<' ∉ ['\\', mark] := by
      rintro hmem
      obtain rfl : '<' = mark := by simpa using hmem
      cases hshort
    have hunit : mark ≠ 'u' := by
      rintro rfl
      cases hshort
    obtain ⟨ds, rfl, hrest⟩ := exists_append ['\\', mark] h hmarks
    exact scanned_cons (.refl _) (scanText_short hunit hshort ds) (ih hrest hparts)
  | case5 c cs hquote hnumber hshort ih =>
    simp only [Option.bind_eq_bind, Option.bind_eq_some_iff, Prod.exists] at hscan
    obtain ⟨⟨⟩, hguard, parts, left, hparts, heq⟩ := hscan
    cases heq
    obtain ⟨hbackslash, hcontrol⟩ : c ≠ '\\' ∧ 0x20 ≤ c.toNat := by
      by_contra hneither
      simp [guard, hneither] at hguard
    have hplain := scanText_plain hquote hbackslash hcontrol
    cases h with
    | same _ htail => exact scanned_cons (.refl _) (hplain _) (ih htail hparts)
    | @slash cs ds htail =>
      -- The respelling has the slash as an escape, which is scanned as the slash itself.
      have hescaped : Json.scanText ('\\' :: '/' :: ds) = Json.scanText ('/' :: ds) := by
        rw [scanText_short (by decide) rfl, scanText_plain (by decide) (by decide) (by decide)]
      have hfound := ih (.same '/' htail) hparts
      rw [← hescaped] at hfound
      exact scanned_cons (.refl _) (hplain _) hfound
    | number htail => exact scanned_cons .number (scanText_unit rfl _) (ih htail hparts)

/-- Of a respelling the same string is read as of the text. -/
theorem Respelled.readText {cs ds rest : List Char} {value : Option String} (h : Respelled cs ds)
    (hread : readText cs = some (value, rest)) :
    ∃ more, Json.readText ds = some (value, more) ∧ Respelled rest more := by
  simp only [Json.readText, Option.bind_eq_bind, Option.bind_eq_some_iff, Prod.exists] at hread ⊢
  obtain ⟨parts, left, hscan, heq⟩ := hread
  cases heq
  obtain ⟨others, more, hothers, hparts, hrest⟩ := h.scanText hscan
  exact ⟨more, ⟨others, more, hothers, by rw [spell?_eq_of_same hparts]⟩, hrest⟩

/-! ## Numbers -/

namespace Respelled

variable {cs ds rest : List Char}

/-- The same digits are split off. -/
theorem splitDigits (h : Respelled cs ds) :
    ∃ more, Decimal.splitDigits ds = ((Decimal.splitDigits cs).1, more) ∧
      Respelled (Decimal.splitDigits cs).2 more := by
  unfold Decimal.splitDigits
  induction h with
  | nil => exact ⟨[], rfl, .nil⟩
  | same c rest ih =>
    by_cases hc : c.isDigit = true
    · obtain ⟨more, hmore, hrest⟩ := ih
      obtain ⟨htake, hdrop⟩ := Prod.mk.inj hmore
      simp only [List.takeWhile_cons_of_pos hc, List.dropWhile_cons_of_pos hc, htake, hdrop]
      exact ⟨more, rfl, hrest⟩
    · simp only [List.takeWhile_cons_of_neg hc, List.dropWhile_cons_of_neg hc]
      exact ⟨_, rfl, .same c rest⟩
  | slash rest => exact ⟨_, rfl, .slash rest⟩
  | number rest => exact ⟨_, rfl, .number rest⟩

/-- Of digits of which there must be some the same is made. -/
theorem someDigits {α : Type} (make : List Char → α) {a : α} (h : Respelled cs ds)
    (hread : (if (Decimal.splitDigits cs).1 = [] then none
      else some (make (Decimal.splitDigits cs).1, (Decimal.splitDigits cs).2)) = some (a, rest)) :
    ∃ more, (if (Decimal.splitDigits ds).1 = [] then none
      else some (make (Decimal.splitDigits ds).1, (Decimal.splitDigits ds).2)) = some (a, more) ∧
      Respelled rest more := by
  obtain ⟨more, hsplit, hrest⟩ := h.splitDigits
  rw [hsplit]
  split at hread
  · cases hread
  next hsome =>
    cases hread
    exact ⟨more, if_neg hsome, hrest⟩

/-- The same digits are read before the point. -/
theorem readWhole {digits : List Char} (h : Respelled cs ds)
    (hread : readWhole cs = some (digits, rest)) :
    ∃ more, Json.readWhole ds = some (digits, more) ∧ Respelled rest more := by
  rcases h.head_cases '0' (by decide) with ⟨cs, ds, rfl, rfl, htail⟩ | ⟨hcs, hds⟩
  · cases hread
    exact ⟨ds, rfl, htail⟩
  · rw [readWhole_of_ne hcs] at hread
    rw [readWhole_of_ne hds]
    exact h.someDigits id hread

/-- The same digits are read after the point. -/
theorem readFraction {fraction : Option (List Char)} (h : Respelled cs ds)
    (hread : readFraction cs = some (fraction, rest)) :
    ∃ more, Json.readFraction ds = some (fraction, more) ∧ Respelled rest more := by
  rcases h.head_cases '.' (by decide) with ⟨cs, ds, rfl, rfl, htail⟩ | ⟨hcs, hds⟩
  · exact htail.someDigits some hread
  · rw [readFraction_of_ne hcs] at hread
    cases hread
    exact ⟨ds, readFraction_of_ne hds, h⟩

/-- The same sign is read. -/
theorem readSign (h : Respelled cs ds) :
    (readSign ds).1 = (readSign cs).1 ∧ Respelled (readSign cs).2 (readSign ds).2 := by
  rcases h.head_cases '-' (by decide) with ⟨cs, ds, rfl, rfl, htail⟩ | ⟨hcs, hds⟩
  · exact ⟨rfl, htail⟩
  rcases h.head_cases '+' (by decide) with ⟨cs, ds, rfl, rfl, htail⟩ | ⟨hcs', hds'⟩
  · exact ⟨rfl, htail⟩
  · rw [readSign_of_ne hcs hcs', readSign_of_ne hds hds']
    exact ⟨rfl, h⟩

/-- The same exponent is read after its mark. -/
theorem readExponent {power : ℤ} (h : Respelled cs ds)
    (hread : Decimal.readExponent cs = some (power, rest)) :
    ∃ more, Decimal.readExponent ds = some (power, more) ∧ Respelled rest more := by
  obtain ⟨hsign, hsize⟩ := h.readSign
  rw [readExponent_eq] at hread ⊢
  rw [hsign]
  exact hsize.someDigits (fun digits => if (Json.readSign cs).1 then
    -(Nat.ofDigitChars 10 digits 0 : ℤ) else Nat.ofDigitChars 10 digits 0) hread

/-- The same exponent is read, or none. -/
theorem readPower {power : Option ℤ} (h : Respelled cs ds)
    (hread : readPower cs = some (power, rest)) :
    ∃ more, Json.readPower ds = some (power, more) ∧ Respelled rest more := by
  have hmarked : ∀ {cs ds : List Char}, Respelled cs ds →
      (Decimal.readExponent cs).map (fun p => (some p.1, p.2)) = some (power, rest) →
      ∃ more, (Decimal.readExponent ds).map (fun p => (some p.1, p.2)) = some (power, more) ∧
        Respelled rest more := by
    intro cs ds h hread
    obtain ⟨⟨n, left⟩, hexponent, heq⟩ := Option.map_eq_some_iff.1 hread
    cases heq
    obtain ⟨more, hmore, hrest⟩ := h.readExponent hexponent
    exact ⟨more, by rw [hmore, Option.map_some], hrest⟩
  rcases h.head_cases 'e' (by decide) with ⟨cs, ds, rfl, rfl, htail⟩ | ⟨hcs, hds⟩
  · exact hmarked htail hread
  rcases h.head_cases 'E' (by decide) with ⟨cs, ds, rfl, rfl, htail⟩ | ⟨hcs', hds'⟩
  · exact hmarked htail hread
  · rw [readPower_of_ne hcs hcs'] at hread
    cases hread
    exact ⟨ds, readPower_of_ne hds hds', h⟩

/-- The same number is read after its sign. -/
theorem readUnsigned {negative : Bool} {value : Json} (h : Respelled cs ds)
    (hread : readUnsigned negative cs = some (value, rest)) :
    ∃ more, Json.readUnsigned negative ds = some (value, more) ∧ Respelled rest more := by
  simp only [Json.readUnsigned, Option.bind_eq_bind, Option.bind_eq_some_iff, Prod.exists]
    at hread ⊢
  obtain ⟨whole, cs₁, hwhole, fraction, cs₂, hfraction, power, cs₃, hpower, heq⟩ := hread
  cases heq
  obtain ⟨ds₁, hwhole, h₁⟩ := h.readWhole hwhole
  obtain ⟨ds₂, hfraction, h₂⟩ := h₁.readFraction hfraction
  obtain ⟨ds₃, hpower, h₃⟩ := h₂.readPower hpower
  exact ⟨ds₃, ⟨whole, ds₁, hwhole, fraction, ds₂, hfraction, power, ds₃, hpower, rfl⟩, h₃⟩

/-- Of a respelling the same number is read as of the text. -/
theorem readNumber {value : Json} (h : Respelled cs ds)
    (hread : readNumber cs = some (value, rest)) :
    ∃ more, Json.readNumber ds = some (value, more) ∧ Respelled rest more := by
  rcases h.head_cases '-' (by decide) with ⟨cs, ds, rfl, rfl, htail⟩ | ⟨hcs, hds⟩
  · rw [readNumber_minus] at hread ⊢
    exact htail.readUnsigned hread
  · rw [readNumber_of_ne hcs] at hread
    rw [readNumber_of_ne hds]
    exact h.readUnsigned hread

end Respelled

/-! ## Values -/

theorem readValue_skipSpace (fuel depth : ℕ) (cs : List Char) :
    readValue fuel depth (skipSpace cs) = readValue fuel depth cs := by
  have hgap : IsGap (cs.takeWhile isSpace) := fun _ hc => List.mem_takeWhile_imp hc
  conv_rhs => rw [← List.takeWhile_append_dropWhile (p := isSpace) (l := cs)]
  exact (readValue_append hgap fuel depth _).symm

/-- With so much fuel or more, the same is read of a respelling as of the text. -/
structure ReadsRespelled (fuel : ℕ) : Prop where
  /-- The same value is read. -/
  value : ∀ {more depth : ℕ} {cs ds rest : List Char} {value : Json}, fuel ≤ more →
    Respelled cs ds → readValue fuel depth cs = some (value, rest) →
    ∃ left, readValue more depth ds = some (value, left) ∧ Respelled rest left
  /-- The same items are read. -/
  items : ∀ {more depth : ℕ} {cs ds rest : List Char} {items : List Json}, fuel ≤ more →
    Respelled cs ds → readItems fuel depth cs = some (items, rest) →
    ∃ left, readItems more depth ds = some (items, left) ∧ Respelled rest left
  /-- The same members are read. -/
  members : ∀ {more depth : ℕ} {cs ds rest : List Char} {members : List (Option String × Json)},
    fuel ≤ more → Respelled cs ds → readMembers fuel depth cs = some (members, rest) →
    ∃ left, readMembers more depth ds = some (members, left) ∧ Respelled rest left

namespace ReadsRespelled

variable {fuel more depth : ℕ} {cs ds rest : List Char}

/-- The same array is read. -/
theorem array (ih : ReadsRespelled fuel) (hle : fuel ≤ more) (h : Respelled cs ds) {value : Json}
    (hread : readValue (fuel + 1) depth ('[' :: cs) = some (value, rest)) :
    ∃ left, readValue (more + 1) depth ('[' :: ds) = some (value, left) ∧ Respelled rest left := by
  have hskip := h.skipSpace
  rw [readValue_bracket] at hread
  split at hread
  next tail heq =>
    rw [heq] at hskip
    obtain ⟨left, hleft, hrest⟩ := hskip.exists_cons (by decide)
    cases hread
    exact ⟨left, by rw [readValue_bracket, hleft]; rfl, hrest⟩
  next hopen =>
    have hhead : (Json.skipSpace cs).head? ≠ some ']' := fun hhead => by
      obtain ⟨tail, heq⟩ := List.head?_eq_some_iff.1 hhead
      exact hopen tail heq
    simp only [Option.bind_eq_bind, Option.bind_eq_some_iff, Prod.exists] at hread
    obtain ⟨items, left, hitems, heq⟩ := hread
    cases heq
    obtain ⟨left, hleft, hrest⟩ := ih.items hle hskip hitems
    exact ⟨left, readValue_array rfl (hskip.head?_ne (by decide) hhead) hleft, hrest⟩

/-- The same object is read. -/
theorem object (ih : ReadsRespelled fuel) (hle : fuel ≤ more) (h : Respelled cs ds) {value : Json}
    (hread : readValue (fuel + 1) depth ('{' :: cs) = some (value, rest)) :
    ∃ left, readValue (more + 1) depth ('{' :: ds) = some (value, left) ∧ Respelled rest left := by
  have hskip := h.skipSpace
  rw [readValue_brace] at hread
  split at hread
  next tail heq =>
    rw [heq] at hskip
    obtain ⟨left, hleft, hrest⟩ := hskip.exists_cons (by decide)
    cases hread
    exact ⟨left, by rw [readValue_brace, hleft]; rfl, hrest⟩
  next hopen =>
    have hhead : (Json.skipSpace cs).head? ≠ some '}' := fun hhead => by
      obtain ⟨tail, heq⟩ := List.head?_eq_some_iff.1 hhead
      exact hopen tail heq
    simp only [Option.bind_eq_bind, Option.bind_eq_some_iff, Prod.exists] at hread
    obtain ⟨members, left, hmembers, heq⟩ := hread
    cases heq
    obtain ⟨left, hleft, hrest⟩ := ih.members hle hskip hmembers
    exact ⟨left, readValue_object rfl (hskip.head?_ne (by decide) hhead) hleft, hrest⟩

/-- The same string is read. -/
theorem text (h : Respelled cs ds) {value : Json}
    (hread : readValue (fuel + 1) depth ('"' :: cs) = some (value, rest)) :
    ∃ left, readValue (more + 1) depth ('"' :: ds) = some (value, left) ∧ Respelled rest left := by
  simp only [readValue_quote, Option.bind_eq_bind, Option.bind_eq_some_iff, Prod.exists]
    at hread ⊢
  obtain ⟨spelled, left, htext, heq⟩ := hread
  cases heq
  obtain ⟨left, hleft, hrest⟩ := h.readText htext
  exact ⟨left, ⟨spelled, left, hleft, rfl⟩, hrest⟩

/-- The same value is read with a step more. -/
theorem value_succ (ih : ReadsRespelled fuel) (hle : fuel ≤ more) (h : Respelled cs ds)
    {value : Json} (hread : readValue (fuel + 1) depth cs = some (value, rest)) :
    ∃ left, readValue (more + 1) depth ds = some (value, left) ∧ Respelled rest left := by
  have hskip := h.skipSpace
  rw [← readValue_skipSpace _ _ ds]
  generalize Json.skipSpace ds = ds at hskip
  rw [readValue] at hread
  -- A case for each thing that a value can start with; the last is that of numbers.
  split at hread
  next cs₁ heq =>
    rw [heq] at hskip
    obtain ⟨ds, rfl, htail⟩ := hskip.exists_cons (by decide)
    exact ih.array hle htail (readValue_bracket.trans hread)
  next cs₁ heq =>
    rw [heq] at hskip
    obtain ⟨ds, rfl, htail⟩ := hskip.exists_cons (by decide)
    exact ih.object hle htail (readValue_brace.trans hread)
  next cs₁ heq =>
    rw [heq] at hskip
    obtain ⟨ds, rfl, htail⟩ := hskip.exists_cons (by decide)
    have hquote : readValue (fuel + 1) depth ('"' :: cs₁) = some (value, rest) :=
      readValue_quote.trans hread
    exact text htail hquote
  next cs₁ heq =>
    rw [heq] at hskip
    obtain ⟨ds, rfl, htail⟩ := hskip.exists_append ['n', 'u', 'l', 'l'] (by decide)
    cases hread
    exact ⟨ds, rfl, htail⟩
  next cs₁ heq =>
    rw [heq] at hskip
    obtain ⟨ds, rfl, htail⟩ := hskip.exists_append ['t', 'r', 'u', 'e'] (by decide)
    cases hread
    exact ⟨ds, rfl, htail⟩
  next cs₁ heq =>
    rw [heq] at hskip
    obtain ⟨ds, rfl, htail⟩ := hskip.exists_append ['f', 'a', 'l', 's', 'e'] (by decide)
    cases hread
    exact ⟨ds, rfl, htail⟩
  next =>
    obtain ⟨left, hleft, hrest⟩ := hskip.readNumber hread
    exact ⟨left, readValue_of_readNumber hleft, hrest⟩

/-- The same items are read with a step more. -/
theorem items_succ (ih : ReadsRespelled fuel) (hle : fuel ≤ more) (h : Respelled cs ds)
    {items : List Json} (hread : readItems (fuel + 1) depth cs = some (items, rest)) :
    ∃ left, readItems (more + 1) depth ds = some (items, left) ∧ Respelled rest left := by
  simp only [readItems_succ, Option.bind_eq_bind, Option.bind_eq_some_iff, Prod.exists] at hread
  obtain ⟨item, cs₁, hitem, hread⟩ := hread
  obtain ⟨ds₁, hitem, h₁⟩ := ih.value hle h hitem
  have hskip := h₁.skipSpace
  split at hread
  next cs₂ heq =>
    rw [heq] at hskip
    obtain ⟨ds₂, hmark, h₂⟩ := hskip.exists_cons (by decide)
    cases hread
    exact ⟨ds₂, readItems_last hitem hmark, h₂⟩
  next cs₂ heq =>
    rw [heq] at hskip
    obtain ⟨ds₂, hmark, h₂⟩ := hskip.exists_cons (by decide)
    simp only [Option.bind_eq_some_iff, Prod.exists] at hread
    obtain ⟨items, cs₃, hitems, heq⟩ := hread
    cases heq
    obtain ⟨ds₃, hitems, h₃⟩ := ih.items hle h₂ hitems
    exact ⟨ds₃, readItems_next hitem hmark hitems, h₃⟩
  next => cases hread

/-- The same members are read with a step more. -/
theorem members_succ (ih : ReadsRespelled fuel) (hle : fuel ≤ more) (h : Respelled cs ds)
    {members : List (Option String × Json)}
    (hread : readMembers (fuel + 1) depth cs = some (members, rest)) :
    ∃ left, readMembers (more + 1) depth ds = some (members, left) ∧ Respelled rest left := by
  -- The two texts are read side by side: name, colon, value, and the mark that says whether more
  -- follows. What is left after each part is the same but for its spelling.
  have hskip := h.skipSpace
  rw [readMembers_succ] at hread
  split at hread
  next cs₁ heq =>
    rw [heq] at hskip
    obtain ⟨ds₁, hquote, h₁⟩ := hskip.exists_cons (by decide)
    simp only [Option.bind_eq_bind, Option.bind_eq_some_iff, Prod.exists] at hread
    obtain ⟨name, cs₂, hname, hread⟩ := hread
    obtain ⟨ds₂, hname, h₂⟩ := h₁.readText hname
    have hskip := h₂.skipSpace
    split at hread
    next cs₃ heq =>
      rw [heq] at hskip
      obtain ⟨ds₃, hcolon, h₃⟩ := hskip.exists_cons (by decide)
      simp only [Option.bind_eq_some_iff, Prod.exists] at hread
      obtain ⟨value, cs₄, hvalue, hread⟩ := hread
      obtain ⟨ds₄, hvalue, h₄⟩ := ih.value hle h₃ hvalue
      have hskip := h₄.skipSpace
      split at hread
      next cs₅ heq =>
        rw [heq] at hskip
        obtain ⟨ds₅, hmark, h₅⟩ := hskip.exists_cons (by decide)
        cases hread
        exact ⟨ds₅, readMembers_last hquote hname hcolon hvalue hmark, h₅⟩
      next cs₅ heq =>
        rw [heq] at hskip
        obtain ⟨ds₅, hmark, h₅⟩ := hskip.exists_cons (by decide)
        simp only [Option.bind_eq_some_iff, Prod.exists] at hread
        obtain ⟨members, cs₆, hmembers, heq⟩ := hread
        cases heq
        obtain ⟨ds₆, hmembers, h₆⟩ := ih.members hle h₅ hmembers
        exact ⟨ds₆, readMembers_next hquote hname hcolon hvalue hmark hmembers, h₆⟩
      next => cases hread
    next => cases hread
  next => cases hread

end ReadsRespelled

/-- The reader reads the same of a respelling, given as much fuel or more. -/
theorem readsRespelled (fuel : ℕ) : ReadsRespelled fuel := by
  induction fuel with
  | zero =>
    refine ⟨fun _ _ hread => ?_, fun _ _ hread => ?_, fun _ _ hread => ?_⟩
    · cases hread
    · cases hread
    · cases hread
  | succ fuel ih =>
    -- The respelling has a step more to go as well.
    have hpred : ∀ {more : ℕ}, fuel + 1 ≤ more → ∃ n, more = n + 1 ∧ fuel ≤ n :=
      fun {more} hle => ⟨more - 1, by omega, by omega⟩
    refine ⟨fun hmore h hread => ?_, fun hmore h hread => ?_, fun hmore h hread => ?_⟩
    · obtain ⟨more, rfl, hle⟩ := hpred hmore
      exact ih.value_succ hle h hread
    · obtain ⟨more, rfl, hle⟩ := hpred hmore
      exact ih.items_succ hle h hread
    · obtain ⟨more, rfl, hle⟩ := hpred hmore
      exact ih.members_succ hle h hread

/-- A respelling is no shorter than the text. -/
theorem Respelled.length_le {cs ds : List Char} (h : Respelled cs ds) : cs.length ≤ ds.length := by
  induction h with
  | nil => exact Nat.le_refl _
  | same _ _ ih => exact Nat.succ_le_succ ih
  | slash _ ih | number _ ih =>
    simp only [List.length_cons]
    omega

/-- The value that a text holds, its respellings hold. -/
theorem Respelled.parse?_eq_some {cs ds : List Char} (h : Respelled cs ds) {value : Json}
    (hparse : parse? (String.ofList cs) = some value) :
    parse? (String.ofList ds) = some value := by
  simp only [parse?, String.toList_ofList, Option.bind_eq_bind, Option.bind_eq_some_iff,
    Prod.exists] at hparse ⊢
  obtain ⟨found, rest, hread, ⟨⟩, hend, heq⟩ := hparse
  cases heq
  have hlength := h.length_le
  have hmore : 2 * cs.length + 2 ≤ 2 * ds.length + 2 := by omega
  obtain ⟨left, hleft, hrest⟩ := (readsRespelled _).value hmore h hread
  have hblank : Json.skipSpace rest = [] := by simpa [guard] using hend
  have hskip := hrest.skipSpace
  rw [hblank] at hskip
  have hnothing : Json.skipSpace left = [] := by
    generalize Json.skipSpace left = left at hskip
    cases hskip
    rfl
  exact ⟨value, left, hleft, (), by rw [hnothing]; rfl, rfl⟩

end Questionnaire.Json
