import Questionnaire.Answer.Json
import Questionnaire.Json.Reader
import Questionnaire.Json.Writer
import Questionnaire.Proofs.IdMap
import Questionnaire.Proofs.Json.Shape

/-!
# Answers read back

An answer carries no mark of its shape, so the shape is told from what is written. Three of the five
shapes are told by the first character. A list and a list of files are both arrays, and are told
from each other by their items: strings or records. Where there is no item, nothing tells them
apart, and an empty list of files is read as an empty list (`Answer.reread`). That is the only
answer that is not read as it was written (`Answer.ofJson_toJson`).

Collected answers are therefore read back from their text with each empty list of files turned into
an empty list, and nothing else changed (`Answers.load_write`).
-/

namespace Questionnaire

open Json (Fault Sound)

/-! ## Files -/

namespace File

/-- A file is read back, with its media type or without. -/
theorem ofJson_toJson (file : File) (surplus : Fault) : ofJson surplus file.toJson = .ok file := by
  obtain ⟨name, size, mediaType⟩ := file
  have hsize : Json.asCount (Json.ofCount size) = .ok size := Json.asCount_ofCount size
  cases mediaType with
  | none =>
    have hrecord : (toJson ⟨name, size, none⟩).asRecord ["name", "size", "type"] surplus =
        .ok [("name", .text name), ("size", Json.ofCount size)] :=
      Json.asRecord_object (by simp [Json.optionalMember]) _ _
    simp [ofJson, hrecord, hsize, Json.Fields.optional]
  | some type =>
    have hrecord : (toJson ⟨name, size, some type⟩).asRecord ["name", "size", "type"] surplus =
        .ok [("name", .text name), ("size", Json.ofCount size), ("type", .text type)] :=
      Json.asRecord_object (by simp [Json.optionalMember]) _ _
    have htype : Json.asOptional Json.asText (.text type) = .ok (some type) :=
      Json.asOptional_eq_ok (by simp) rfl
    simp [ofJson, hrecord, hsize, htype, Json.Fields.optional]

/-- A file is no string. -/
theorem asText_toJson (file : File) : file.toJson.asText = .error .misshapen :=
  rfl

/-- A written file is sound: there is no number in it but its size. -/
theorem sound_toJson (file : File) (P : Number → Prop) (room : ℕ) :
    Sound P (room + 1) file.toJson := by
  simp [toJson]

end File

/-! ## Answers -/

namespace Answer

/-- What an answer is read back as. -/
def reread : Answer → Answer
  | .files [] => .list []
  | answer => answer

/-- An answer that says something is read back as it is. -/
theorem reread_of_not_isEmpty {answer : Answer} (h : answer.isEmpty = false) :
    answer.reread = answer := by
  unfold reread
  split
  next => cases h
  next => rfl

/-- The number of an answer, if it is one. -/
def numbers : Answer → List Number
  | .number x => [x]
  | _ => []

/-- A written answer is sound when its number is as it should be. -/
theorem sound_toJson {answer : Answer} {P : Number → Prop} (h : ∀ x ∈ answer.numbers, P x)
    (room : ℕ) : Sound P (room + 2) answer.toJson := by
  cases answer with
  | number x => exact .real _ (h x (List.mem_singleton.2 rfl))
  | text s => exact .text _ s
  | list items => exact Json.sound_ofList fun s _ => .text _ s
  | files uploads => exact Json.sound_ofList fun file _ => file.sound_toJson P room
  | grid cells =>
    refine .object fun member hmember => ?_
    obtain ⟨cell, _, rfl⟩ := List.mem_map.1 hmember
    exact .text _ cell.2

/-- An array of strings is read as a list. -/
theorem ofItems_text (items : List String) : ofItems (items.map Json.text) = .ok (.list items) := by
  have hitems : (items.map Json.text).mapM Json.asText = .ok items :=
    Json.mapM_map_eq_ok fun _ _ => rfl
  rw [ofItems, hitems]

/-- An array of files is read as files, unless it is empty: its first item is no string. -/
theorem ofItems_file (file : File) (rest : List File) :
    ofItems ((file :: rest).map File.toJson) = .ok (.files (file :: rest)) := by
  have hstrings : ((file :: rest).map File.toJson).mapM Json.asText = .error .misshapen := by
    rw [List.map_cons, List.mapM_cons, file.asText_toJson]
    rfl
  have hfiles : ((file :: rest).map File.toJson).mapM (File.ofJson .misshapen) =
      .ok (file :: rest) :=
    Json.mapM_map_eq_ok fun other _ => other.ofJson_toJson _
  rw [ofItems, hstrings]
  simp only [hfiles, map_ok]

/-- The cells of a grid are read back under the ids of their rows. -/
theorem asMembers_grid (cells : IdMap String) :
    (grid cells).toJson.asMembers Json.asText = .ok cells.entries := by
  have hmembers : (cells.entries.map fun cell => (cell.1, Json.text cell.2)).mapM
      (fun member => (member.1, ·) <$> Json.asText member.2) = .ok cells.entries :=
    Json.mapM_map_eq_ok fun _ _ => rfl
  exact hmembers

/-- An answer is read back as the shape it has, but for an empty list of files. -/
theorem ofJson_toJson (answer : Answer) : ofJson answer.toJson = .ok answer.reread := by
  have hwhole : answer.toJson.whole = .ok answer.toJson :=
    (sound_toJson (P := fun _ => True) (fun _ _ => trivial) 0).whole
  rw [ofJson, hwhole]
  cases answer with
  | number x => rfl
  | text s => rfl
  | list items => exact ofItems_text items
  | files uploads =>
    cases uploads with
    | nil => rfl
    | cons file rest => exact ofItems_file file rest
  | grid cells =>
    show (do return grid (.ofList (← (grid cells).toJson.asMembers Json.asText))) =
      Except.ok (grid cells)
    rw [asMembers_grid]
    show Except.ok (grid (.ofList cells.entries)) = Except.ok (grid cells)
    rw [IdMap.ofList_entries]

end Answer

/-! ## Collected answers -/

/-- The negative zero is read back with its sign. -/
theorem Number.readsBack_negativeZero : (finite (.signedZero true)).ReadsBack := by
  have hwritten : Json.writeNumber (.finite (.signedZero true)) = ['-', '0', '.', '0'] := by
    decide +kernel
  exact readsBack_of_written hwritten rfl

namespace Answers

/-- The numbers among collected answers. -/
def numbers (answers : Answers) : List Number :=
  answers.entries.flatMap fun entry => entry.2.numbers

/-- Written answers are sound when their numbers are as they should be. -/
theorem sound_toJson {answers : Answers} {P : Number → Prop} (h : ∀ x ∈ answers.numbers, P x)
    (room : ℕ) : Sound P (room + 3) answers.toJson := by
  refine .object fun member hmember => ?_
  obtain ⟨entry, hentry, rfl⟩ := List.mem_map.1 hmember
  exact Answer.sound_toJson (fun x hx => h x (List.mem_flatMap.2 ⟨entry, hentry, hx⟩)) room

/-- The value that answers are written as is read as these answers, each as it is read back. -/
theorem ofJson_toJson (answers : Answers) :
    ofJson answers.toJson = .ok (answers.map Answer.reread) := by
  have hmembers : (answers.entries.map fun entry => (entry.1, entry.2.toJson)).mapM
      (fun member => (member.1, ·) <$> Answer.ofJson member.2) =
        .ok (answers.entries.map fun entry => (entry.1, entry.2.reread)) := by
    refine Json.mapM_map_eq_ok_map fun entry _ => ?_
    rw [Answer.ofJson_toJson, map_ok]
  have hread : answers.toJson.asMembers Answer.ofJson = .ok (answers.map Answer.reread).entries :=
    hmembers
  rw [ofJson, hread]
  show Except.ok (IdMap.ofList (answers.map Answer.reread).entries) =
    Except.ok (answers.map Answer.reread)
  rw [IdMap.ofList_entries]

/-- Collected answers whose numbers are read back are read from their text, in either layout, with
each empty list of files turned into an empty list and nothing else changed. -/
theorem load_write {answers : Answers} (hnumbers : ∀ x ∈ answers.numbers, x.ReadsBack)
    (layout : Json.Layout) :
    Json.load ofJson (String.ofList (answers.toJson.write layout 0)) =
      .ok (answers.map Answer.reread) := by
  -- Three levels hold any answers, of the 127 that the reader goes down.
  have hsound : Sound Number.ReadsBack Json.depthLimit answers.toJson := sound_toJson hnumbers 124
  rw [Json.load, hsound.parse?_write layout]
  exact ofJson_toJson answers

/-- Answers of every shape, some of them empty, with a negative zero, and texts and ids that need
escapes. -/
def tripAnswers : Answers :=
  .ofList
    [("balance", .number (.finite (.signedZero true))), ("note", .text "\u0009\"\\/\u0001"),
     ("stops", .list ["rome", ""]), ("guests", .list []),
     ("tickets", .files [⟨"a.pdf", 0xFFFFFFFFFFFFFFFF, some "application/pdf"⟩, ⟨"", 0, none⟩]),
     ("photos", .files []), ("hotel \"x\"", .grid (.ofList [("bed", "good"), ("\n", "")])),
     ("bus", .grid .empty)]

/-- Of the answers on a trip all come back but the empty list of photos, which is a list then. -/
theorem load_write_tripAnswers :
    (∀ x ∈ tripAnswers.numbers, x.ReadsBack) ∧ ∃ back,
      Json.load ofJson tripAnswers.toJson.indented = .ok back ∧
        back.get? "photos" = some (.list []) ∧
        ∀ id ∈ tripAnswers.ids, id ≠ "photos" → back.get? id = tripAnswers.get? id := by
  have hnumbers : ∀ x ∈ tripAnswers.numbers, x.ReadsBack := by
    have hlist : tripAnswers.numbers = [.finite (.signedZero true)] := rfl
    rw [hlist]
    simpa using Number.readsBack_negativeZero
  exact ⟨hnumbers, _, load_write hnumbers .indented, rfl, by decide⟩

end Answers

end Questionnaire
