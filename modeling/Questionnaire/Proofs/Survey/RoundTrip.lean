import Questionnaire.Proofs.Interview.Cursor
import Questionnaire.Proofs.Question.Json
import Questionnaire.Proofs.Settings
import Questionnaire.Survey.Basic

/-!
# Surveys read back

A survey that is saved and loaded again is the same survey (`Survey.load_save`), down to the order
of its questions, of their options and of the versions of every text. Nothing is asked of it but
that no two of its questions share an id, without which it is refused, and that each of its numbers
is read back where it stands alone.

Two steps make it up. The value that a survey is written as is read as the survey, whatever its
numbers (`Survey.ofJson_toJson`), and the text that the value is written as is read as the value
(`Json.Sound.parse?_write`), since all in it but the numbers is read back.
-/

namespace Questionnaire

open Json (Sound)

namespace Survey

/-! ## Ids -/

/-- No id is repeated when all differ from each other and from those seen before. -/
theorem firstRepetition?_eq_none_iff {seen : List String} {questions : List Question} :
    firstRepetition? seen questions = none ↔
      (questions.map Question.id).Nodup ∧ ∀ q ∈ questions, q.id ∉ seen := by
  induction questions generalizing seen with
  | nil => simp [firstRepetition?]
  | cons q rest ih =>
    rw [firstRepetition?, List.map_cons, List.nodup_cons, List.forall_mem_cons]
    by_cases hseen : q.id ∈ seen
    · simp [hseen]
    · have hfresh : (∀ other ∈ rest, other.id ∉ q.id :: seen) ↔
          q.id ∉ rest.map Question.id ∧ ∀ other ∈ rest, other.id ∉ seen := by
        simp only [List.mem_cons, not_or, List.mem_map, not_exists, not_and]
        exact forall₂_and
      rw [if_neg (by simpa using hseen), ih, hfresh]
      tauto

/-- A survey passes when no two of its questions share an id. -/
theorem checkIds_eq_ok_iff {survey checked : Survey} :
    survey.checkIds = .ok checked ↔ survey.DistinctIds ∧ survey = checked := by
  have hids : firstRepetition? [] survey.questions = none ↔ survey.DistinctIds := by
    rw [firstRepetition?_eq_none_iff]
    simp [DistinctIds]
  rw [← hids, checkIds]
  cases firstRepetition? [] survey.questions with
  | none => simp
  | some id => simp

/-! ## Values -/

/-- The value that a survey is written as is read as the survey. -/
theorem ofJson_toJson (survey : Survey) : ofJson survey.toJson = .ok survey := by
  have hrecord : survey.toJson.asRecord ["id", "title", "description", "settings", "questions"]
      .malformed = .ok [("id", .text survey.id), ("title", survey.title.toJson),
        ("description", survey.description.toJson), ("settings", survey.settings.toJson),
        ("questions", Json.ofList Question.toJson survey.questions)] :=
    Json.asRecord_object (by simp) _ _
  have hquestions : Json.asList Question.ofJson (Json.ofList Question.toJson survey.questions) =
      .ok survey.questions :=
    Json.asList_ofList fun q _ => q.ofJson_toJson
  simp [ofJson, hrecord, hquestions, Wording.ofJson_toJson, Settings.ofJson_toJson]

/-- The numbers of a survey: those of its questions. -/
def numbers (survey : Survey) : List Number :=
  survey.questions.flatMap Question.numbers

/-- The value that a survey is written as is sound when its numbers are as they should be. -/
theorem sound_toJson {survey : Survey} {P : Number → Prop} (h : ∀ x ∈ survey.numbers, P x)
    (room : ℕ) : Sound P (room + 6) survey.toJson := by
  have hquestions : Sound P (room + 5) (Json.ofList Question.toJson survey.questions) :=
    Json.sound_ofList fun q hq =>
      Question.sound_toJson (fun x hx => h x (List.mem_flatMap.2 ⟨q, hq, hx⟩)) room
  simp [toJson, hquestions, Wording.sound_toJson, Settings.sound_toJson]

/-! ## Texts -/

/-- The text of a survey is read as the value that it is written as. -/
theorem parse?_save {survey : Survey} (hnumbers : ∀ x ∈ survey.numbers, x.ReadsBack) :
    Json.parse? survey.save = some survey.toJson := by
  -- Six levels hold any survey, of the 127 that the reader goes down.
  have hsound : Sound Number.ReadsBack Json.depthLimit survey.toJson := sound_toJson hnumbers 121
  exact hsound.parse?_write .compact

/-- A text in which there is a survey is loaded unless an id is repeated in it. -/
theorem load_eq_checkIds {survey : Survey} {text : String} {value : Json}
    (hparse : Json.parse? text = some value) (hread : ofJson value = .ok survey) :
    load text = survey.checkIds := by
  rw [load, hparse]
  show fromJson value = survey.checkIds
  rw [fromJson, hread]

/-- A text that is read as the value that a survey is written as is loaded as the survey. -/
theorem load_of_parse? {survey : Survey} {text : String} (hids : survey.DistinctIds)
    (hparse : Json.parse? text = some survey.toJson) : load text = .ok survey := by
  rw [load_eq_checkIds hparse (ofJson_toJson survey)]
  exact checkIds_eq_ok_iff.2 ⟨hids, rfl⟩

/-- A survey that is loaded has distinct ids. -/
theorem distinctIds_of_load {text : String} {survey : Survey} (h : load text = .ok survey) :
    survey.DistinctIds := by
  unfold load fromJson at h
  split at h
  · split at h
    · obtain ⟨hids, rfl⟩ := checkIds_eq_ok_iff.1 h
      exact hids
    · cases h
  · cases h

/-- A survey whose numbers are read back is the same after it was saved and loaded, if no two of its
questions share an id; so is every survey that was ever loaded. -/
theorem load_save (survey : Survey) (hnumbers : ∀ x ∈ survey.numbers, x.ReadsBack) :
    (survey.DistinctIds → load survey.save = .ok survey) ∧
      ∀ text, load text = .ok survey → load survey.save = .ok survey := by
  have hload : survey.DistinctIds → load survey.save = .ok survey := by
    intro hids
    rw [load, parse?_save hnumbers]
    show fromJson survey.toJson = .ok survey
    rw [fromJson, ofJson_toJson]
    exact checkIds_eq_ok_iff.2 ⟨hids, rfl⟩
  exact ⟨hload, fun text htext => hload (distinctIds_of_load htext)⟩

/-! ## A survey with numbers -/

/-- One half. -/
def half : Number := .finite ⟨false, 0x3FE0000000000000, by decide⟩

/-- Two. -/
def two : Number := .finite ⟨false, 0x4000000000000000, by decide⟩

/-- One half is read back. -/
theorem readsBack_half : half.ReadsBack := by
  have hwritten : Json.writeNumber half = ['0', '.', '5'] := by decide +kernel
  exact Number.readsBack_of_written hwritten rfl

/-- Two is read back. -/
theorem readsBack_two : two.ReadsBack := by
  have hwritten : Json.writeNumber two = ['2', '.', '0'] := by decide +kernel
  exact Number.readsBack_of_written hwritten rfl

/-- A survey with a bound, a rule on numbers, and versions of its title in an order of their own. -/
def heightSurvey : Survey where
  id := "heights"
  title := .localized ⟨[("fr", "Tailles"), ("en", "Heights")], by decide⟩
  questions :=
    [{ id := "height", body := .numeric { min := some half },
       rules := [⟨"tall", .reveal, .greaterThan, .number two⟩] },
     { id := "tall", required := true,
       body := .checkboxGroup { options := [⟨"yes", .plain "Yes"⟩], maxSelections := some 1 } }]

/-- The survey of heights is the same after it was saved and loaded. -/
theorem load_save_heightSurvey :
    (∀ x ∈ heightSurvey.numbers, x.ReadsBack) ∧ heightSurvey.DistinctIds ∧
      load heightSurvey.save = .ok heightSurvey := by
  have hnumbers : ∀ x ∈ heightSurvey.numbers, x.ReadsBack := by
    have hlist : heightSurvey.numbers = [half, two] := rfl
    rw [hlist]
    simp [readsBack_half, readsBack_two]
  have hids : heightSurvey.DistinctIds := by decide
  exact ⟨hnumbers, hids, (load_save heightSurvey hnumbers).1 hids⟩

end Survey

end Questionnaire
