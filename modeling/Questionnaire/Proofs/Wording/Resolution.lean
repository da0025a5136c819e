import Questionnaire.Wording

/-!
# The text that is displayed

`Wording.Displays` tells, one case for each way it can go, which text a wording comes to in a
locale. A language counts where its text is not empty; behind the two languages of the locale all
texts count in declared order. Some text is displayed in every case (`Wording.exists_displays`),
and resolving gives it (`Wording.Displays.resolve_eq`), so the cases leave no choice
(`Wording.resolve_picks`).
-/

namespace Questionnaire

/-! ## What languages offer -/

namespace Versions

/-- The language has the text, and it is not empty. -/
def Offers (versions : Versions) (language text : String) : Prop :=
  (language, text) ∈ versions.entries ∧ text ≠ ""

/-- The language has no text, or the empty one. -/
def Silent (versions : Versions) (language : String) : Prop :=
  ∀ text, ¬ versions.Offers language text

/-- The text is not empty, and in declared order all before it are. -/
def OffersFirst (versions : Versions) (text : String) : Prop :=
  text ≠ "" ∧ ∃ before language after, versions.entries = before ++ (language, text) :: after ∧
    ∀ entry ∈ before, entry.2 = ""

/-- The text of a language, if it is not empty. -/
def offered? (versions : Versions) (language : String) : Option String :=
  (versions.get? language).filter fun text => !text.isEmpty

/-- The first text in declared order that is not empty. -/
def firstOffered? (versions : Versions) : Option String :=
  versions.texts.find? fun text => !text.isEmpty

variable {versions : Versions} {language text : String}

/-- A language has the text that is declared with it, there being no second one. -/
theorem get?_eq_some_iff :
    versions.get? language = some text ↔ (language, text) ∈ versions.entries := by
  rw [get?, List.lookup_eq_some_iff]
  constructor
  · rintro ⟨before, after, hentries, _⟩
    rw [hentries]
    exact List.mem_append_right _ List.mem_cons_self
  · intro hmem
    obtain ⟨before, after, hentries⟩ := List.append_of_mem hmem
    refine ⟨before, after, hentries, fun entry hentry => bne_iff_ne.2 fun heq => ?_⟩
    have hdistinct := versions.distinct
    rw [hentries, List.map_append, List.nodup_append] at hdistinct
    exact hdistinct.2.2 entry.1 (List.mem_map_of_mem hentry) language List.mem_cons_self heq.symm

theorem offered?_eq_some_iff :
    versions.offered? language = some text ↔ versions.Offers language text := by
  simp [offered?, Option.filter_eq_some_iff, get?_eq_some_iff, Offers]

theorem offered?_eq_none_iff : versions.offered? language = none ↔ versions.Silent language := by
  simp only [Option.eq_none_iff_forall_ne_some, ne_eq, offered?_eq_some_iff, Silent]

theorem firstOffered?_eq_some_iff :
    versions.firstOffered? = some text ↔ versions.OffersFirst text := by
  simp only [firstOffered?, texts, List.find?_map, Option.map_eq_some_iff,
    List.find?_eq_some_iff_append, OffersFirst, Function.comp, Bool.not_eq_true', Bool.not_not,
    String.isEmpty_iff, String.isEmpty_eq_false_iff]
  constructor
  · rintro ⟨⟨language, _⟩, ⟨hne, before, after, hentries, hbefore⟩, rfl⟩
    exact ⟨hne, before, language, after, hentries, hbefore⟩
  · rintro ⟨hne, before, language, after, hentries, hbefore⟩
    exact ⟨(language, text), ⟨hne, before, after, hentries, hbefore⟩, rfl⟩

theorem firstOffered?_eq_none_iff :
    versions.firstOffered? = none ↔ ∀ entry ∈ versions.entries, entry.2 = "" := by
  simp [firstOffered?, texts]

end Versions

/-! ## What is displayed -/

namespace Wording

/-- A wording comes to a text for the active language and the one that stands in for it. -/
inductive Displays (active fallback : String) : Wording → String → Prop where
  /-- A plain text is displayed in every language. -/
  | plain (text : String) : Displays active fallback (.plain text) text
  /-- The active language comes first. -/
  | active {versions : Versions} {text : String} (offers : versions.Offers active text) :
    Displays active fallback (.localized versions) text
  /-- The language that stands in comes second. -/
  | fallback {versions : Versions} {text : String} (silent : versions.Silent active)
    (offers : versions.Offers fallback text) : Displays active fallback (.localized versions) text
  /-- Where neither has a text, the first in declared order is displayed. -/
  | first {versions : Versions} {text : String} (silent : versions.Silent active)
    (silent_fallback : versions.Silent fallback) (offers : versions.OffersFirst text) :
    Displays active fallback (.localized versions) text
  /-- Where all texts are empty, none is displayed. -/
  | nothing {versions : Versions} (empty : ∀ entry ∈ versions.entries, entry.2 = "") :
    Displays active fallback (.localized versions) ""

/-- Versions are resolved by looking at the two languages and at all texts in turn. -/
theorem resolve_localized (versions : Versions) (active fallback : String) :
    (localized versions).resolve active fallback =
      (((versions.offered? active).or (versions.offered? fallback)).or
        versions.firstOffered?).getD "" := by
  have hoffered : ∀ language, (versions.get? language).toList.find? (fun text => !text.isEmpty) =
      versions.offered? language := by
    intro language
    rw [Versions.offered?]
    cases versions.get? language with
    | none => rfl
    | some text => cases hempty : text.isEmpty <;> simp [Option.filter, hempty]
  simp only [resolve, List.find?_append, hoffered, Versions.firstOffered?]

variable {w : Wording} {active fallback text : String}

open Versions (offered?_eq_some_iff offered?_eq_none_iff firstOffered?_eq_some_iff
  firstOffered?_eq_none_iff)

/-- What is displayed is what resolving gives. -/
theorem Displays.resolve_eq (h : w.Displays active fallback text) :
    w.resolve active fallback = text := by
  cases h with
  | plain => rfl
  | active offers =>
    rw [resolve_localized, offered?_eq_some_iff.2 offers]
    rfl
  | fallback silent offers =>
    rw [resolve_localized, offered?_eq_none_iff.2 silent, offered?_eq_some_iff.2 offers]
    rfl
  | first silent silent_fallback offers =>
    rw [resolve_localized, offered?_eq_none_iff.2 silent, offered?_eq_none_iff.2 silent_fallback,
      firstOffered?_eq_some_iff.2 offers]
    rfl
  | @nothing versions empty =>
    -- Where all texts are empty, no language offers one.
    have silent : ∀ language, versions.Silent language :=
      fun language text offers => offers.2 (empty _ offers.1)
    rw [resolve_localized, offered?_eq_none_iff.2 (silent active),
      offered?_eq_none_iff.2 (silent fallback), firstOffered?_eq_none_iff.2 empty]
    rfl

/-- Some text is displayed in every case. -/
theorem exists_displays (w : Wording) (active fallback : String) :
    ∃ text, w.Displays active fallback text := by
  cases w with
  | plain text => exact ⟨text, .plain text⟩
  | localized versions =>
    by_cases hactive : ∃ text, versions.Offers active text
    · obtain ⟨text, offers⟩ := hactive
      exact ⟨text, .active offers⟩
    have silent : versions.Silent active := not_exists.1 hactive
    by_cases hfallback : ∃ text, versions.Offers fallback text
    · obtain ⟨text, offers⟩ := hfallback
      exact ⟨text, .fallback silent offers⟩
    have silent_fallback : versions.Silent fallback := not_exists.1 hfallback
    cases hfirst : versions.firstOffered? with
    | some text =>
      exact ⟨text, .first silent silent_fallback (firstOffered?_eq_some_iff.1 hfirst)⟩
    | none => exact ⟨"", .nothing (firstOffered?_eq_none_iff.1 hfirst)⟩

/-- Resolving gives exactly what is displayed. -/
theorem resolve_eq_iff : w.resolve active fallback = text ↔ w.Displays active fallback text := by
  refine ⟨?_, Displays.resolve_eq⟩
  rintro rfl
  obtain ⟨text, h⟩ := w.exists_displays active fallback
  rwa [h.resolve_eq]

/-- A wording is empty exactly when the empty text is displayed, whichever the languages are. -/
theorem resolve_eq_empty_iff : w.resolve active fallback = "" ↔ w.isEmpty = true := by
  rw [resolve_eq_iff]
  constructor
  · intro h
    cases h with
    | plain => rfl
    | active offers | fallback _ offers => exact absurd rfl offers.2
    | first _ _ offers => exact absurd rfl offers.1
    | nothing empty => simpa [isEmpty, Versions.texts] using empty
  · intro h
    cases w with
    | plain text =>
      have htext : text = "" := by simpa [isEmpty] using h
      rw [htext]
      exact .plain ""
    | localized versions =>
      exact .nothing (by simpa [isEmpty, Versions.texts] using h)

/-- Resolving picks the text that is displayed: of a plain text this one, else the text of the
active language, else that of the language that stands in, else the first in declared order, empty
texts passed over. It is empty only where the wording has no text, and stays as it is when it is
resolved again. -/
theorem resolve_picks (w : Wording) (active fallback : String) :
    (∀ text, w.resolve active fallback = text ↔ w.Displays active fallback text) ∧
      (w.resolve active fallback = "" ↔ w.isEmpty = true) ∧
      ∀ active' fallback',
        (plain (w.resolve active fallback)).resolve active' fallback' = w.resolve active fallback :=
  ⟨fun _ => resolve_eq_iff, resolve_eq_empty_iff, fun _ _ => rfl⟩

end Wording

end Questionnaire
