import Questionnaire.Proofs.Wording.Resolution

/-!
# Adding a version to a wording

A text added under a language takes the place of the language's old text, or comes last where the
language is new. So the other languages keep their texts and their order
(`Versions.get?_insert`, `Versions.languages_insert`). What is displayed in other languages may
still change, because in the end the first text in declared order counts, and that can be the added
one. It does not change where one of the two languages looked at has a text, or where the wording
was a plain text that is kept, which comes first (`Wording.IsFixed`,
`Wording.versionAdded_withVersion`).
-/

namespace Questionnaire

/-! ## Versions -/

namespace Versions

variable {versions : Versions} {language other text offered : String}

theorem lookup_cons_eq (key old other : String) (rest : List (String × String)) :
    ((key, old) :: rest).lookup other = if other = key then some old else rest.lookup other := by
  rw [List.lookup_cons]
  by_cases h : other = key
  · rw [if_pos h, beq_iff_eq.2 h]
  · rw [if_neg h, beq_eq_false_iff_ne.2 h]

/-- What is found after a text is put in: the new text under its language, and elsewhere what was
there. -/
theorem lookup_put (language other text : String) (entries : List (String × String)) :
    (put language text entries).lookup other =
      if other = language then some text else entries.lookup other := by
  induction entries with
  | nil => exact lookup_cons_eq language text other []
  | cons entry rest ih =>
    obtain ⟨key, old⟩ := entry
    by_cases hkey : key = language
    · rw [put, if_pos hkey, lookup_cons_eq, lookup_cons_eq, hkey]
      by_cases h : other = language <;> simp [h]
    · rw [put, if_neg hkey, lookup_cons_eq, lookup_cons_eq, ih]
      by_cases h : other = key
      · simp [h, hkey]
      · simp [h]

theorem get?_insert (versions : Versions) (language other text : String) :
    (versions.insert language text).get? other =
      if other = language then some text else versions.get? other :=
  lookup_put language other text versions.entries

theorem languages_insert (versions : Versions) (language text : String) :
    (versions.insert language text).languages =
      if language ∈ versions.languages then versions.languages
      else versions.languages ++ [language] :=
  map_fst_put language text versions.entries

/-- An added text is offered by its language unless it is empty. -/
theorem offers_insert_self (hne : text ≠ "") :
    (versions.insert language text).Offers language text :=
  ⟨get?_eq_some_iff.1 (by rw [get?_insert, if_pos rfl]), hne⟩

/-- Other languages offer what they did. -/
theorem offers_insert_of_ne (h : other ≠ language) :
    (versions.insert language text).Offers other offered ↔ versions.Offers other offered := by
  simp only [Offers, ← get?_eq_some_iff, get?_insert, if_neg h]

theorem silent_insert_of_ne (h : other ≠ language) :
    (versions.insert language text).Silent other ↔ versions.Silent other :=
  forall_congr' fun _ => not_congr (offers_insert_of_ne h)

end Versions

/-! ## Wordings -/

namespace Wording

/-- What is displayed for the two languages does not hang on a text added under a third one: one of
the two has a text, or a plain text is kept, and that under another language than the added one. -/
inductive IsFixed (plainLanguage language active fallback : String) : Wording → Prop where
  /-- A plain text is kept. -/
  | plain {old : String} (not_empty : old ≠ "") (kept : plainLanguage ≠ language) :
    IsFixed plainLanguage language active fallback (.plain old)
  /-- One of the two languages has a text. -/
  | localized {versions : Versions}
    (offers : ∃ text, versions.Offers active text ∨ versions.Offers fallback text) :
    IsFixed plainLanguage language active fallback (.localized versions)

/-- How a wording comes out of another by adding a text under a language, where a plain text is to
be kept under `plainLanguage`. -/
structure VersionAdded (before : Wording) (plainLanguage language text : String)
    (after : Wording) : Prop where
  /-- The language has the added text. -/
  added : after.get? language = some text
  /-- The declared languages keep their order, and a new one comes last. -/
  in_order : ∀ versions, before = .localized versions → after.languages =
    if language ∈ versions.languages then versions.languages else versions.languages ++ [language]
  /-- Every other declared language keeps its text, and no other is declared. -/
  unchanged : ∀ versions, before = .localized versions → ∀ other, other ≠ language →
    after.get? other = versions.get? other
  /-- A plain text is kept under its language, before the added text. -/
  kept : ∀ old, before = .plain old → old ≠ "" → plainLanguage ≠ language →
    after.languages = [plainLanguage, language] ∧ after.get? plainLanguage = some old
  /-- An empty plain text is not kept, nor is one whose language is the added one. -/
  alone : ∀ old, before = .plain old → old = "" ∨ plainLanguage = language →
    after.languages = [language]
  /-- In other languages the same text is displayed, if it does not hang on the added one. -/
  same_elsewhere : ∀ active fallback, active ≠ language → fallback ≠ language →
    before.IsFixed plainLanguage language active fallback →
      after.resolve active fallback = before.resolve active fallback
  /-- In the language itself the added text is displayed, if it is not empty. -/
  displayed : text ≠ "" → ∀ fallback, after.resolve language fallback = text

variable {plainLanguage language text old : String}

/-- A plain text that is kept stays before the added one. -/
theorem entries_kept (hne : old ≠ "") (hkept : plainLanguage ≠ language) (text : String) :
    (((plain old).toVersions plainLanguage).insert language text).entries =
      [(plainLanguage, old), (language, text)] := by
  have hempty : old.isEmpty = false := String.isEmpty_eq_false_iff.2 hne
  simp [toVersions, hempty, Versions.insert, Versions.put, Versions.empty, hkept]

/-- Where no plain text is kept, the added one is alone. -/
theorem entries_alone (h : old = "" ∨ plainLanguage = language) :
    (((plain old).toVersions plainLanguage).insert language text).entries = [(language, text)] := by
  by_cases hempty : old = ""
  · simp [toVersions, hempty, Versions.insert, Versions.put, Versions.empty]
  · have hempty' : old.isEmpty = false := String.isEmpty_eq_false_iff.2 hempty
    obtain rfl : plainLanguage = language := h.resolve_left hempty
    simp [toVersions, hempty', Versions.insert, Versions.put, Versions.empty]

/-- Of a plain text that is kept and an added one, another language can only offer the first. -/
theorem offers_kept_iff {other offered : String} (hne : old ≠ "") (hkept : plainLanguage ≠ language)
    (hother : other ≠ language) :
    (((plain old).toVersions plainLanguage).insert language text).Offers other offered ↔
      other = plainLanguage ∧ offered = old := by
  simp only [Versions.Offers, entries_kept hne hkept text, List.mem_cons, List.not_mem_nil,
    or_false, Prod.mk.injEq, hother, false_and]
  constructor
  · exact fun h => h.1
  · rintro ⟨rfl, rfl⟩
    exact ⟨⟨rfl, rfl⟩, hne⟩

/-- All but their two languages are silent. -/
theorem silent_kept {other : String} (hne : old ≠ "") (hkept : plainLanguage ≠ language)
    (hother : other ≠ language) (h : other ≠ plainLanguage) (text : String) :
    (((plain old).toVersions plainLanguage).insert language text).Silent other :=
  fun _ offers => h ((offers_kept_iff hne hkept hother).1 offers).1

variable {active fallback : String}

/-- A plain text that is kept is displayed in all languages but the added one. -/
theorem displays_kept (hne : old ≠ "") (hkept : plainLanguage ≠ language)
    (hactive : active ≠ language) (hfallback : fallback ≠ language) :
    ((plain old).withVersion plainLanguage language text).Displays active fallback old := by
  by_cases h : active = plainLanguage
  · exact .active ((offers_kept_iff hne hkept hactive).2 ⟨h, rfl⟩)
  have silent := silent_kept hne hkept hactive h text
  by_cases h' : fallback = plainLanguage
  · exact .fallback silent ((offers_kept_iff hne hkept hfallback).2 ⟨h', rfl⟩)
  -- In a language of neither text the first one counts, and that is the one kept.
  exact .first silent (silent_kept hne hkept hfallback h' text)
    ⟨hne, [], plainLanguage, [(language, text)], entries_kept hne hkept text, nofun⟩

/-- What does not hang on the added text is displayed as before. -/
theorem displays_withVersion {w : Wording} (hactive : active ≠ language)
    (hfallback : fallback ≠ language) (h : w.IsFixed plainLanguage language active fallback) :
    (w.withVersion plainLanguage language text).Displays active fallback
      (w.resolve active fallback) := by
  cases h with
  | plain not_empty kept => exact displays_kept not_empty kept hactive hfallback
  | @localized versions offers =>
    obtain ⟨offered, offers⟩ := offers
    by_cases h : ∃ offered, versions.Offers active offered
    · obtain ⟨offered, offers⟩ := h
      rw [(Displays.active offers).resolve_eq]
      exact .active ((Versions.offers_insert_of_ne hactive).2 offers)
    · have silent : versions.Silent active := not_exists.1 h
      have offers : versions.Offers fallback offered := offers.resolve_left (silent offered)
      rw [(Displays.fallback silent offers).resolve_eq]
      exact .fallback ((Versions.silent_insert_of_ne hactive).2 silent)
        ((Versions.offers_insert_of_ne hfallback).2 offers)

/-- Adding a version puts the text under its language and leaves all others as they are. -/
theorem versionAdded_withVersion (w : Wording) (plainLanguage language text : String) :
    w.VersionAdded plainLanguage language text (w.withVersion plainLanguage language text) where
  added := by
    show (Versions.insert _ language text).get? language = some text
    rw [Versions.get?_insert, if_pos rfl]
  in_order := by
    rintro versions rfl
    exact versions.languages_insert language text
  unchanged := by
    rintro versions rfl other hother
    show (versions.insert language text).get? other = versions.get? other
    rw [Versions.get?_insert, if_neg hother]
  kept := by
    rintro old rfl hne hkept
    have hentries := entries_kept hne hkept text
    constructor
    · show Versions.languages _ = _
      rw [Versions.languages, hentries]
      rfl
    · show Versions.get? _ plainLanguage = some old
      rw [Versions.get?_eq_some_iff, hentries]
      exact List.mem_cons_self
  alone := by
    rintro old rfl h
    show Versions.languages _ = _
    rw [Versions.languages, entries_alone h]
    rfl
  same_elsewhere := fun _ _ hactive hfallback h =>
    (displays_withVersion hactive hfallback h).resolve_eq
  displayed := fun hne _ => Displays.resolve_eq (.active (Versions.offers_insert_self hne))

/-- A greeting in English and French. -/
def greeting : Wording :=
  .localized (.ofList [("en", "Hello"), ("fr", "Bonjour")])

/-- With a German greeting the French one is displayed as before. -/
theorem versionAdded_withVersion_greeting :
    greeting.IsFixed "en" "de" "fr" "en" ∧
      (greeting.withVersion "en" "de" "Hallo").languages = ["en", "fr", "de"] ∧
      (greeting.withVersion "en" "de" "Hallo").resolve "fr" "en" = greeting.resolve "fr" "en" ∧
      (greeting.withVersion "en" "de" "Hallo").resolve "de" "en" = "Hallo" := by
  have fixed : greeting.IsFixed "en" "de" "fr" "en" :=
    .localized ⟨"Bonjour", .inl ⟨by decide, by decide⟩⟩
  have h := versionAdded_withVersion greeting "en" "de" "Hallo"
  exact ⟨fixed, h.in_order _ rfl, h.same_elsewhere "fr" "en" (by decide) (by decide) fixed,
    h.displayed (by decide) "en"⟩

end Wording

end Questionnaire
