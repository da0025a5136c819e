import Questionnaire.Proofs.Wording
import Questionnaire.Settings

/-!
# Settings read back

Settings are read back as they were written (`Settings.ofJson_toJson`). The fields of the theme
stand among the other settings and are told from them by name alone: what is none of the settings'
own fields is left to the theme (`Settings.filter_toFields`).
-/

namespace Questionnaire

open Json (Fields Sound SoundFields)

/-! ## Spelled alternatives -/

theorem Navigation.asOneOf_spelling (navigation : Navigation) :
    Json.asOneOf spellings (.text navigation.spelling) = .ok navigation := by
  cases navigation <;> rfl

theorem Numbering.asOneOf_spelling (numbering : Numbering) :
    Json.asOneOf spellings (.text numbering.spelling) = .ok numbering := by
  cases numbering <;> rfl

theorem RequiredMark.asOneOf_spelling (mark : RequiredMark) :
    Json.asOneOf spellings (.text mark.spelling) = .ok mark := by
  cases mark <;> rfl

/-! ## Themes -/

namespace Theme

/-- A theme is read back from its fields. -/
theorem ofFields_toFields (theme : Theme) : ofFields theme.toFields = .ok theme := by
  simp [ofFields, toFields]

theorem sound_toFields (theme : Theme) (P : Number → Prop) (room : ℕ) :
    SoundFields P room theme.toFields := by
  simp [toFields]

theorem nodup_toFields (theme : Theme) : (theme.toFields.map Prod.fst).Nodup := by
  simp [toFields]

end Theme

/-! ## Settings -/

namespace Settings

/-- The fields of written settings. -/
def toFields (settings : Settings) : Fields :=
  [("defaultLanguage", .text settings.defaultLanguage),
    ("languages", Json.ofList Json.text settings.languages)] ++ settings.theme.toFields ++
    [("randomizeQuestions", .bool settings.randomizeQuestions),
     ("respectSections", .bool settings.respectSections),
     ("showProgressBar", .bool settings.showProgressBar),
     ("showResponseSummary", .bool settings.showResponseSummary),
     ("navigationStyle", .text settings.navigation.spelling),
     ("questionNumbering", .text settings.numbering.spelling),
     ("requiredIndicator", .text settings.requiredMark.spelling),
     ("completionMessage", settings.completionMessage.toJson)]

theorem toJson_eq (settings : Settings) : settings.toJson = .object settings.toFields :=
  rfl

/-- What is none of the settings' own fields is the theme. -/
theorem filter_toFields (settings : Settings) :
    settings.toFields.filter (fun field => !fieldNames.contains field.1) =
      settings.theme.toFields := by
  simp [toFields, Theme.toFields, fieldNames]

/-- Settings are read back. -/
theorem ofJson_toJson (settings : Settings) : ofJson settings.toJson = .ok settings := by
  have hnames : settings.toFields.repeats fieldNames = false :=
    Fields.repeats_eq_false (by simp [toFields, Theme.toFields]) _
  have hlegible : Json.legibleMembers settings.theme.toFields = true :=
    (settings.theme.sound_toFields (fun _ => True) 0).legible
  have htheme : settings.theme.toFields.repeats Theme.fieldNames = false :=
    Fields.repeats_eq_false settings.theme.nodup_toFields _
  have hlanguages : Json.asList Json.asText (Json.ofList Json.text settings.languages) =
      .ok settings.languages :=
    Json.asList_ofList fun _ _ => rfl
  rw [toJson_eq]
  show ofFields settings.toFields = .ok settings
  unfold ofFields
  simp only [hnames, filter_toFields, hlegible, htheme, Theme.ofFields_toFields]
  simp [toFields, Theme.toFields, hlanguages, Navigation.asOneOf_spelling,
    Numbering.asOneOf_spelling, RequiredMark.asOneOf_spelling, Wording.ofJson_toJson]

/-- Written settings are sound: there is no number in them. -/
theorem sound_toJson (settings : Settings) (P : Number → Prop) (room : ℕ) :
    Sound P (room + 2) settings.toJson := by
  have hlanguages : Sound P (room + 1) (Json.ofList Json.text settings.languages) :=
    Json.sound_ofList fun s _ => .text room s
  rw [toJson_eq]
  simp [toFields, hlanguages, Theme.sound_toFields, Wording.sound_toJson]

end Settings

end Questionnaire
