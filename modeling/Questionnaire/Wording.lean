import Questionnaire.Json.Shape

/-!
# Wordings

A text that respondents see is a `Wording`: one text for all languages, or a version for each of
several. The versions keep the order in which they were declared, because the first one that is not
empty stands in when neither the active nor the default language has a text of its own
(`Wording.resolve`).
-/

namespace Questionnaire

/-! ## Language versions -/

/-- Texts by language, in declared order, each language once. -/
structure Versions where
  /-- The languages and their texts. -/
  entries : List (String × String)
  /-- No language is declared twice. -/
  distinct : (entries.map Prod.fst).Nodup
deriving DecidableEq

namespace Versions

/-- The entries with the text put under the language: over the old text where the language is
declared, at the end where it is not. -/
def put (language text : String) : List (String × String) → List (String × String)
  | [] => [(language, text)]
  | (key, old) :: rest =>
    if key = language then (key, text) :: rest else (key, old) :: put language text rest

/-- Putting a text keeps the declared languages in order and appends a new one at the end. -/
theorem map_fst_put (language text : String) (entries : List (String × String)) :
    (put language text entries).map Prod.fst =
      if language ∈ entries.map Prod.fst then entries.map Prod.fst
      else entries.map Prod.fst ++ [language] := by
  induction entries with
  | nil => simp [put]
  | cons head rest ih =>
    obtain ⟨key, old⟩ := head
    by_cases h : key = language
    · simp [put, h]
    · have h' : ¬ language = key := fun heq => h heq.symm
      simp only [put, if_neg h, List.map_cons, ih, List.mem_cons, h', false_or]
      split <;> simp

/-- Putting a text keeps the languages distinct. -/
theorem nodup_put {language text : String} {entries : List (String × String)}
    (h : (entries.map Prod.fst).Nodup) : ((put language text entries).map Prod.fst).Nodup := by
  rw [map_fst_put]
  split
  · exact h
  next hmem =>
    refine List.nodup_append.2 ⟨h, by simp, fun a ha b hb heq => ?_⟩
    rw [List.mem_singleton.1 hb] at heq
    exact hmem (heq ▸ ha)

/-- No version at all. -/
def empty : Versions := ⟨[], .nil⟩

/-- The text of a language, if it is declared. -/
def get? (versions : Versions) (language : String) : Option String :=
  versions.entries.lookup language

/-- The versions with the text under the language. -/
def insert (versions : Versions) (language text : String) : Versions :=
  ⟨put language text versions.entries, nodup_put versions.distinct⟩

/-- The versions of a list; a language listed again keeps its first place and its last text. -/
def ofList (entries : List (String × String)) : Versions :=
  entries.foldl (fun versions entry => versions.insert entry.1 entry.2) empty

/-- The declared languages in order. -/
def languages (versions : Versions) : List String :=
  versions.entries.map Prod.fst

/-- The texts in declared order. -/
def texts (versions : Versions) : List String :=
  versions.entries.map Prod.snd

end Versions

/-! ## Wordings -/

/-- A text in one wording for all languages or with a version for each of several. -/
inductive Wording where
  /-- The same text in every language. -/
  | plain (text : String)
  /-- A text for each declared language. -/
  | localized (versions : Versions)
deriving DecidableEq

namespace Wording

/-- The wording without any text. -/
def empty : Wording := .plain ""

instance : Inhabited Wording := ⟨empty⟩

/-- Whether no language has a text that is not empty. -/
def isEmpty : Wording → Bool
  | .plain text => text.isEmpty
  | .localized versions => versions.texts.all String.isEmpty

/-- The text of exactly this language; a plain text is one of every language. -/
def get? (w : Wording) (language : String) : Option String :=
  match w with
  | .plain text => some text
  | .localized versions => versions.get? language

/-- The declared languages in order; none for a plain text. -/
def languages : Wording → List String
  | .plain _ => []
  | .localized versions => versions.languages

/-- The versions that a wording becomes when one is added: a plain text that is not empty is kept
under the given language. -/
def toVersions (w : Wording) (plainLanguage : String) : Versions :=
  match w with
  | .plain text =>
    if text.isEmpty then .empty else Versions.empty.insert plainLanguage text
  | .localized versions => versions

/-- The wording with a version added or replaced; a plain text that is not empty is kept under
the given language. -/
def withVersion (w : Wording) (plainLanguage language text : String) : Wording :=
  .localized ((w.toVersions plainLanguage).insert language text)

/-- The text to display: that of the active language, else that of the fallback language, else the
first in declared order, where empty texts are passed over; empty if there is none. -/
def resolve (w : Wording) (active fallback : String) : String :=
  match w with
  | .plain text => text
  | .localized versions =>
    let candidates := (versions.get? active).toList ++ (versions.get? fallback).toList ++
      versions.texts
    (candidates.find? fun text => !text.isEmpty).getD ""

/-! ## Wordings as JSON -/

/-- A wording as JSON: a string, or an object of strings. -/
def toJson : Wording → Json
  | .plain text => .text text
  | .localized versions =>
    .object (versions.entries.map fun (language, text) => (language, .text text))

/-- The wording that a JSON value holds. -/
def ofJson (value : Json) : Except Json.Fault Wording := do
  match ← value.whole with
  | .text s => .ok (.plain s)
  | value => return .localized (.ofList (← value.asMembers Json.asText))

end Wording

/-! ## Locales -/

/-- The language a respondent reads in and the one that stands in for it. -/
structure Locale where
  /-- The language chosen. -/
  active : String
  /-- The language of texts that the active one lacks. -/
  fallback : String
deriving DecidableEq

/-- The text of a wording in a locale. -/
def Locale.resolve (locale : Locale) (w : Wording) : String :=
  w.resolve locale.active locale.fallback

end Questionnaire
