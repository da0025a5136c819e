import Questionnaire.Page.Document
import Questionnaire.Proofs.Json.Respelling
import Questionnaire.Proofs.Survey.RoundTrip

/-!
# The masked text

A survey that is put into a page must not end the element that it stands in, nor open a comment.
Masking takes care of both: there is neither a `</` nor a `<!--` in the survey that is put into a
page (`not_closer_embeddedSurvey`, `not_comment_embeddedSurvey`). What is read of it is the survey,
since each of the two masks is a respelling of the text that it is put on.

Closers are masked before comments. The second mask makes no `</` where there was none, since
nothing that starts with a `<` and has no backslash in it stands in a respelling but not in the
text.
-/

namespace Questionnaire.Page

open Json (Respelled)

/-! ## Masks respell -/

/-- The mask of closers is a respelling. -/
theorem respelled_maskClosers (cs : List Char) : Respelled cs (maskClosers cs) := by
  fun_induction maskClosers cs with
  | case1 rest ih => exact .slash ih
  | case2 c rest _ ih => exact .same c ih
  | case3 => exact .nil

/-- The mask of comments is a respelling. -/
theorem respelled_maskComments (cs : List Char) : Respelled cs (maskComments cs) := by
  fun_induction maskComments cs with
  | case1 rest ih => exact .number (.same '!' (.same '-' (.same '-' ih)))
  | case2 c rest _ ih => exact .same c ih
  | case3 => exact .nil

/-! ## What does not stand in a masked text -/

/-- No closer is left by the mask of closers. -/
theorem not_closer_maskClosers (cs : List Char) : ¬ ['<', '/'] <:+: maskClosers cs := by
  fun_induction maskClosers cs with
  | case1 rest ih => simpa [List.infix_cons_iff] using ih
  | case2 c rest hopen ih =>
    rw [List.infix_cons_iff, not_or]
    refine ⟨fun hstart => ?_, ih⟩
    -- The slash would have been there before the rest was masked.
    obtain ⟨rfl, hslash⟩ := List.cons_prefix_cons.1 hstart
    obtain ⟨tail, rfl⟩ := (respelled_maskClosers rest).prefix_left (by decide) hslash
    exact hopen tail rfl rfl
  | case3 => decide

/-- No opener of a comment is left by the mask of comments. -/
theorem not_comment_maskComments (cs : List Char) :
    ¬ ['<', '!', '-', '-'] <:+: maskComments cs := by
  fun_induction maskComments cs with
  | case1 rest ih => simpa [List.infix_cons_iff] using ih
  | case2 c rest hopen ih =>
    rw [List.infix_cons_iff, not_or]
    refine ⟨fun hstart => ?_, ih⟩
    obtain ⟨rfl, hmarks⟩ := List.cons_prefix_cons.1 hstart
    obtain ⟨tail, rfl⟩ := (respelled_maskComments rest).prefix_left (by decide) hmarks
    exact hopen tail rfl rfl
  | case3 => decide

/-! ## Surveys -/

/-- In the survey that is put into a page there is no closer. -/
theorem not_closer_embeddedSurvey (survey : Survey) :
    ¬ ['<', '/'] <:+: (embeddedSurvey survey).toList := by
  rw [embeddedSurvey, String.toList_ofList]
  exact fun hcloser => not_closer_maskClosers _
    ((respelled_maskComments _).infix_left (by decide) hcloser)

/-- In the survey that is put into a page there is no opener of a comment. -/
theorem not_comment_embeddedSurvey (survey : Survey) :
    ¬ ['<', '!', '-', '-'] <:+: (embeddedSurvey survey).toList := by
  rw [embeddedSurvey, String.toList_ofList]
  exact not_comment_maskComments _

/-- The survey that is put into a page is read as the value that it is written as. -/
theorem parse?_embeddedSurvey {survey : Survey} (hnumbers : ∀ x ∈ survey.numbers, x.ReadsBack) :
    Json.parse? (embeddedSurvey survey) = some survey.toJson := by
  have hsaved : Json.parse? (String.ofList (survey.toJson.write .compact 0)) =
      some survey.toJson := Survey.parse?_save hnumbers
  exact (respelled_maskComments _).parse?_eq_some ((respelled_maskClosers _).parse?_eq_some hsaved)

end Questionnaire.Page
