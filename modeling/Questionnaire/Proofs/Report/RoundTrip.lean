import Questionnaire.Proofs.Answer.Json
import Questionnaire.Proofs.Interview.Submission

/-!
# Reports read back

Not every report is read back as it was saved: an empty list of files in it would be read as an
empty list. But a report has entries only on questions with an answer that says something, and such
an answer is read back as it is. So every report that a survey is submitted with, after any history
of operations, is the same after it was saved and loaded (`Interview.reports_read_back`).

The numbers in a report are those of answers recorded along the history
(`Interview.mem_recordedNumbers_of_get?`), and only of them it is asked that they are read back.
-/

namespace Questionnaire

open Json (Sound)

/-! ## Reports -/

namespace Report

/-- A kind is read back from its tag. -/
theorem asOneOf_tag (kind : Kind) : Json.asOneOf Kind.spellings (.text kind.tag) = .ok kind := by
  cases kind <;> rfl

/-- An entry whose answer says something is read back. -/
theorem Entry.ofJson_toJson {entry : Entry} (h : entry.answer.isEmpty = false) :
    ofJson entry.toJson = .ok entry := by
  have hrecord : entry.toJson.asRecord ["questionId", "questionType", "text", "answer", "display"]
      .malformed = .ok [("questionId", .text entry.questionId),
        ("questionType", .text entry.kind.tag), ("text", .text entry.text),
        ("answer", entry.answer.toJson), ("display", .text entry.display)] :=
    Json.asRecord_object (by simp) _ _
  have hanswer : Answer.ofJson entry.answer.toJson = .ok entry.answer := by
    rw [Answer.ofJson_toJson, Answer.reread_of_not_isEmpty h]
  simp [ofJson, hrecord, asOneOf_tag, hanswer]

/-- A report whose answers all say something is read back, with its entries in their order. -/
theorem ofJson_toJson {report : Report}
    (h : ∀ entry ∈ report.entries, entry.answer.isEmpty = false) :
    ofJson report.toJson = .ok report := by
  have hrecord : report.toJson.asRecord ["surveyId", "language", "entries"] .malformed =
      .ok [("surveyId", .text report.surveyId), ("language", .text report.language),
        ("entries", Json.ofList Entry.toJson report.entries)] :=
    Json.asRecord_object (by simp) _ _
  have hentries : Json.asList Entry.ofJson (Json.ofList Entry.toJson report.entries) =
      .ok report.entries :=
    Json.asList_ofList fun entry hentry => Entry.ofJson_toJson (h entry hentry)
  simp [ofJson, hrecord, hentries]

/-- The numbers among the answers of a report. -/
def numbers (report : Report) : List Number :=
  report.entries.flatMap fun entry => entry.answer.numbers

/-- A written report is sound when its numbers are as they should be. -/
theorem sound_toJson {report : Report} {P : Number → Prop} (h : ∀ x ∈ report.numbers, P x)
    (room : ℕ) : Sound P (room + 5) report.toJson := by
  have hentries : Sound P (room + 4) (Json.ofList Entry.toJson report.entries) := by
    refine Json.sound_ofList fun entry hentry => ?_
    have hanswer : Sound P (room + 2) entry.answer.toJson :=
      Answer.sound_toJson (fun x hx => h x (List.mem_flatMap.2 ⟨entry, hentry, hx⟩)) room
    simp [Entry.toJson, hanswer]
  simp [toJson, hentries]

/-- A report whose answers all say something, and whose numbers are read back, is the same after it
was saved and loaded. -/
theorem load_of_not_isEmpty {report : Report}
    (h : ∀ entry ∈ report.entries, entry.answer.isEmpty = false)
    (hnumbers : ∀ x ∈ report.numbers, x.ReadsBack) : Json.load ofJson report.save = .ok report := by
  -- Five levels hold any report, of the 127 that the reader goes down.
  have hsound : Sound Number.ReadsBack Json.depthLimit report.toJson := sound_toJson hnumbers 122
  have hparse : Json.parse? report.save = some report.toJson := hsound.parse?_write .indented
  rw [Json.load, hparse]
  exact ofJson_toJson h

/-- The answer of an entry drawn up of a question is the one given to it, and says something. -/
theorem answer_of_reported? {answers : Answers} {visibility : Visibility} {locale : Locale}
    {q : Question} {entry : Entry} (h : reported? answers visibility locale q = some entry) :
    answers.get? q.id = some entry.answer ∧ entry.answer.isEmpty = false := by
  obtain ⟨-, -, answer, hanswer, hempty, rfl⟩ := reported?_eq_some_iff.1 h
  exact ⟨hanswer, hempty⟩

end Report

/-! ## Reports of interviews -/

namespace Interview

variable {σ : Type} {survey : Survey} {i : Interview σ} {report : Report}

/-- The answer of an entry drawn up of a state is one that the state holds, and says something. -/
theorem answer_of_mem_draftReport {entry : Report.Entry}
    (h : entry ∈ (i.draftReport survey).entries) :
    (∃ id, i.answers.get? id = some entry.answer) ∧ entry.answer.isEmpty = false := by
  obtain ⟨q, -, hq⟩ := List.mem_filterMap.1 h
  obtain ⟨hanswer, hempty⟩ := Report.answer_of_reported? hq
  exact ⟨⟨q.id, hanswer⟩, hempty⟩

variable [Source σ]

/-- The report given back is the one that would be drawn up. -/
theorem Transition.report_eq {operation : Operation} {after : Interview σ}
    (h : Transition survey i operation after (.submitted report)) :
    report = i.draftReport survey := by
  cases h
  rfl

/-- A report given back along a history is drawn up of the state that the history has come to. -/
theorem exists_draft_of_mem_replies {history : List Operation}
    (h : .submitted report ∈ i.replies survey history) :
    ∃ earlier later, history = earlier ++ later ∧
      report = (i.run survey earlier).draftReport survey := by
  induction history generalizing i with
  | nil => cases h
  | cons operation rest ih =>
    have hreplies : i.replies survey (operation :: rest) =
        (i.step survey operation).2 :: (i.step survey operation).1.replies survey rest := rfl
    rw [hreplies, List.mem_cons] at h
    rcases h with hhead | hrest
    · have hstep := step_transition survey i operation
      rw [← hhead] at hstep
      exact ⟨[], operation :: rest, rfl, hstep.report_eq⟩
    · obtain ⟨earlier, later, rfl, hreport⟩ := ih hrest
      exact ⟨operation :: earlier, later, rfl, hreport⟩

/-! ## Recorded numbers -/

/-- The numbers among the answers that were recorded along a trace. -/
def recordedNumbers (trace : List (Operation × Reply)) : List Number :=
  trace.flatMap fun
    | (.respond _ answer, .responded _) => answer.numbers
    | _ => []

/-- The trace of a history in two parts is that of the first and that of the second after it. -/
theorem trace_append (survey : Survey) (i : Interview σ) (xs ys : List Operation) :
    i.trace survey (xs ++ ys) = i.trace survey xs ++ (i.run survey xs).trace survey ys := by
  induction xs generalizing i with
  | nil => rfl
  | cons operation rest ih => exact congrArg _ (ih (i.step survey operation).1)

/-- The number of an answer last recorded along a trace is among those recorded. -/
theorem mem_recordedNumbers {trace : List (Operation × Reply)} {id : String} {answer : Answer}
    {x : Number} (h : lastRecorded? id trace = some answer) (hx : x ∈ answer.numbers) :
    x ∈ recordedNumbers trace := by
  obtain ⟨entry, hentry, hrecorded⟩ := List.exists_of_findSome?_eq_some h
  refine List.mem_flatMap.2 ⟨entry, List.mem_reverse.1 hentry, ?_⟩
  unfold recordedBy? at hrecorded
  split at hrecorded
  next =>
    obtain ⟨-, heq⟩ := Option.ite_none_right_eq_some.1 hrecorded
    obtain rfl := Option.some.inj heq
    exact hx
  next => cases hrecorded

/-- The number of an answer that a state of a run holds was recorded on the way to it. -/
theorem mem_recordedNumbers_of_get? {draws : σ} {language : Option String}
    (hstart : start survey draws language = .ok i) (history : List Operation) {id : String}
    {answer : Answer} {x : Number} (h : (i.run survey history).answers.get? id = some answer)
    (hx : x ∈ answer.numbers) : x ∈ recordedNumbers (i.trace survey history) := by
  obtain ⟨-, hempty⟩ := start_eq_ok_iff.1 hstart
  have hlast : lastRecorded? id (i.trace survey history) = some answer := by
    rw [get?_answers_run, hempty, IdMap.get?_empty, Option.or_none] at h
    rw [hempty, h]
  exact mem_recordedNumbers hlast hx

/-- Every report that a survey is submitted with, after any history of operations along which no
number was recorded but such as are read back, is the same after it was saved and loaded. -/
theorem reports_read_back {draws : σ} {language : Option String}
    (hstart : start survey draws language = .ok i) {history : List Operation}
    (hreport : .submitted report ∈ i.replies survey history)
    (hnumbers : ∀ x ∈ recordedNumbers (i.trace survey history), x.ReadsBack) :
    Json.load Report.ofJson report.save = .ok report := by
  obtain ⟨earlier, later, rfl, rfl⟩ := exists_draft_of_mem_replies hreport
  refine Report.load_of_not_isEmpty (fun entry hentry => (answer_of_mem_draftReport hentry).2)
    fun x hx => hnumbers x ?_
  obtain ⟨entry, hentry, hx⟩ := List.mem_flatMap.1 hx
  obtain ⟨⟨id, hanswer⟩, -⟩ := answer_of_mem_draftReport hentry
  have hrecorded : x ∈ recordedNumbers (i.trace survey earlier) :=
    mem_recordedNumbers_of_get? hstart earlier hanswer hx
  rw [trace_append, recordedNumbers, List.flatMap_append]
  exact List.mem_append_left _ hrecorded

/-- Two questions on files, one on a number, and a grid. -/
def deskSurvey : Survey where
  id := "desk"
  title := .plain "Expenses"
  questions :=
    [{ id := "receipts", text := .plain "Receipts?", body := .fileUpload {} },
     { id := "photos", text := .plain "Photos?", body := .fileUpload {} },
     { id := "total", text := .plain "Total?", body := .numeric {} },
     { id := "rating", text := .plain "Rating?",
       body := .matrix ⟨[⟨"food", .plain "Food"⟩], [⟨"good", .plain "Good"⟩]⟩ }]

/-- A respondent hands in no photos, a receipt, a rating and a total, submits the survey, and tries
to change the total after that. -/
def deskHistory : List Operation :=
  [.respond "photos" (.files []), .respond "receipts" (.files [⟨"a \"b\".pdf", 1200, none⟩]),
   .respond "rating" (.grid (.ofList [("food", "good")])),
   .respond "total" (.number (.finite (.signedZero true))), .submit,
   .respond "total" (.number (.finite .zero))]

/-- The report has everything but the photos, and is the same after it was saved and loaded. -/
theorem reports_read_back_deskSurvey :
    ∃ i report, start deskSurvey (Keystream.ofSeed 0) none = .ok i ∧
      .submitted report ∈ i.replies deskSurvey deskHistory ∧
      (∀ x ∈ recordedNumbers (i.trace deskSurvey deskHistory), x.ReadsBack) ∧
      report.entries.map Report.Entry.questionId = ["receipts", "total", "rating"] ∧
      Json.load Report.ofJson report.save = .ok report := by
  obtain ⟨i, report, hstart, hreport, hlist, hids⟩ : ∃ i report,
      start deskSurvey (Keystream.ofSeed 0) none = .ok i ∧
      .submitted report ∈ i.replies deskSurvey deskHistory ∧
      recordedNumbers (i.trace deskSurvey deskHistory) = [.finite (.signedZero true)] ∧
      report.entries.map Report.Entry.questionId = ["receipts", "total", "rating"] :=
    ⟨_, _, rfl, List.mem_iff_getElem?.2 ⟨4, rfl⟩, rfl, rfl⟩
  have hnumbers : ∀ x ∈ recordedNumbers (i.trace deskSurvey deskHistory), x.ReadsBack := by
    rw [hlist]
    simpa using Number.readsBack_negativeZero
  exact ⟨i, report, hstart, hreport, hnumbers, hids, reports_read_back hstart hreport hnumbers⟩

end Interview

end Questionnaire
