import Questionnaire.Proofs.Json.Shape
import Questionnaire.Wording

/-!
# Wordings read back

A wording is read back as it was written, its versions in the order in which they were declared
(`Wording.ofJson_toJson`). Reading puts the versions in one after the other, and a new language
always goes to the end, so distinct languages stay in the order they come in
(`Versions.ofList_entries`).
-/

namespace Questionnaire

namespace Versions

/-- A text under a new language is put at the end. -/
theorem put_of_not_mem {language : String} {entries : List (String × String)}
    (h : language ∉ entries.map Prod.fst) (text : String) :
    put language text entries = entries ++ [(language, text)] := by
  induction entries with
  | nil => rfl
  | cons entry rest ih =>
    obtain ⟨hne, hrest⟩ := not_or.1 (mt List.mem_cons.2 h)
    rw [put, if_neg (Ne.symm hne), ih hrest, List.cons_append]

/-- Versions under new languages are put at the end in their order. -/
theorem entries_foldl_insert (versions : Versions) {entries : List (String × String)}
    (h : ((versions.entries ++ entries).map Prod.fst).Nodup) :
    (entries.foldl (fun versions entry => versions.insert entry.1 entry.2) versions).entries =
      versions.entries ++ entries := by
  induction entries generalizing versions with
  | nil => simp
  | cons entry rest ih =>
    have hnew : entry.1 ∉ versions.entries.map Prod.fst := by
      rw [List.map_append, List.nodup_append] at h
      exact fun hmem => h.2.2 _ hmem entry.1 List.mem_cons_self rfl
    have hinsert : (versions.insert entry.1 entry.2).entries = versions.entries ++ [entry] :=
      put_of_not_mem hnew entry.2
    rw [List.foldl_cons, ih _ (by rwa [hinsert, List.append_assoc]), hinsert, List.append_assoc]
    rfl

/-- The versions of the entries of versions are these. -/
theorem ofList_entries (versions : Versions) : ofList versions.entries = versions := by
  have hentries : (ofList versions.entries).entries = versions.entries :=
    entries_foldl_insert empty versions.distinct
  cases h : ofList versions.entries
  rw [h] at hentries
  cases hentries
  rfl

end Versions

namespace Wording

/-- A written wording is sound: there are only texts in it. -/
theorem sound_toJson (w : Wording) (P : Number → Prop) (room : ℕ) :
    Json.Sound P (room + 1) w.toJson := by
  cases w with
  | plain s => exact .text _ s
  | localized versions =>
    refine .object fun member hmember => ?_
    obtain ⟨entry, _, rfl⟩ := List.mem_map.1 hmember
    exact .text _ entry.2

/-- A wording is read back, with its versions in declared order. -/
theorem ofJson_toJson (w : Wording) : ofJson w.toJson = .ok w := by
  have hwhole : w.toJson.whole = .ok w.toJson := (w.sound_toJson (fun _ => True) 0).whole
  rw [ofJson, hwhole]
  cases w with
  | plain s => rfl
  | localized versions =>
    -- The versions are read as a list of entries, and that list makes up the same versions.
    have hmembers : (versions.entries.map fun entry => (entry.1, Json.text entry.2)).mapM
        (fun member => (member.1, ·) <$> Json.asText member.2) = .ok versions.entries :=
      Json.mapM_map_eq_ok fun _ _ => rfl
    have hread : Json.asMembers Json.asText (localized versions).toJson = .ok versions.entries :=
      hmembers
    show (do
      return localized (.ofList (← Json.asMembers Json.asText (localized versions).toJson))) =
        Except.ok (localized versions)
    rw [hread]
    show Except.ok (localized (.ofList versions.entries)) = Except.ok (localized versions)
    rw [Versions.ofList_entries]

end Wording

end Questionnaire
