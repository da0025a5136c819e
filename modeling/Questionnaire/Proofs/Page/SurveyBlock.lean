import Questionnaire.Proofs.Page.Form
import Questionnaire.Proofs.Page.Masking
import Questionnaire.Proofs.Page.Stylesheet

/-!
# The page carries the survey

A page carries its survey as a block of JSON, from which the scripts of the page read it. The block
is found by the tag before it: it begins after the first place where that tag is written, and ends
at the next place where a script element ends. What is found there is the survey that the page was
made of, whatever its texts and the options of the page say (`surveyBlock_carries_survey`).

Two things are shown. Nothing that stands before the block can be taken for its tag: the style sheet
has no tags at all (`not_mem_stylesheet`), and the rest of it is tame. And nothing in the block can
be taken for its end, since the survey is masked.
-/

namespace Questionnaire.Page

/-! ## The page before the block -/

/-- The tag that the survey stands after. -/
def surveyTag : Token :=
  .start "script" [attr "type" "application/json", attr "id" "survey-definition"]

/-- The page up to the tag of the survey. -/
def preamble (survey : Survey) (options : Options) : List Token :=
  .fixed "<!DOCTYPE html>\n" ::
    (line 0 [.start "html" [attr "lang" survey.settings.defaultLanguage]] ++
      documentHead survey options (documentTitle survey options) ++ line 0 [.start "body" []] ++
      line 0 (element "div" [attr "id" "survey-root", attr "class" (options.classPrefix ++ "-root"),
        attr "data-class-prefix" options.classPrefix] []) ++
      line 0 [.start "noscript" []] ++ form survey options.classPrefix ++
      line 0 [.stop "noscript"] ++ [.fixed (String.ofList (List.replicate 0 ' '))])

/-- A page is its preamble, the block of the survey, and something more. -/
theorem document_eq (survey : Survey) (options : Options) (scripts : List String) :
    ∃ after, document survey options scripts = preamble survey options ++
      surveyTag :: .fixed (embeddedSurvey survey) :: .stop "script" :: after := by
  refine ⟨.fixed "\n" :: (scripts.map .fixed ++ line 0 [.stop "body"] ++ line 0 [.stop "html"]), ?_⟩
  simp [document, documentBody, preamble, surveyTag, line, element]

/-- The declaration of the type of a document is tame. -/
theorem tame_doctype : (Token.fixed "<!DOCTYPE html>\n").Tame := by
  have hwritten : (Token.fixed "<!DOCTYPE html>\n").write =
      '<' :: '!' :: "DOCTYPE html>\n".toList := rfl
  rw [Token.Tame, hwritten]
  exact tame_of_ne (by decide) (by decide)

/-- The head of a page is tame. -/
theorem tame_documentHead (survey : Survey) (options : Options) (title : String) :
    Tame (documentHead survey options title) := by
  unfold documentHead
  cases options.generatedAt <;> cases options.includeStyles <;>
    simp +decide [metaLine, not_mem_stylesheet]

/-- The page up to the tag of the survey is tame. -/
theorem tame_preamble (survey : Survey) (options : Options) : Tame (preamble survey options) := by
  simp +decide [preamble, tame_doctype, tame_documentHead, tame_form]

/-! ## The block -/

/-- What a page carries as its survey: the text after the first place where the tag of the survey is
written, up to the next end of a script element. -/
def surveyBlock? (page : String) : Option String := do
  let (_, rest) ← page.toList.dropInfix?
    "<script type=\"application/json\" id=\"survey-definition\">".toList
  let (block, _) ← rest.dropInfix? "</script>".toList
  return String.ofList block

/-- What a page carries is the survey as it was put in. -/
theorem surveyBlock?_compile (survey : Survey) (options : Options) (scripts : List String) :
    surveyBlock? (compile survey options scripts).html = some (embeddedSurvey survey) := by
  obtain ⟨after, hdocument⟩ := document_eq survey options scripts
  have hpage : (compile survey options scripts).html.toList =
      (preamble survey options).flatMap Token.write ++ (surveyTag.write ++
        ((embeddedSurvey survey).toList ++ ((Token.stop "script").write ++
          after.flatMap Token.write))) := by
    rw [compile, hdocument, render, String.toList_ofList, List.flatMap_append]
    rfl
  have htag : "<script type=\"application/json\" id=\"survey-definition\">".toList =
      surveyTag.write := by decide
  have hstop : "</script>".toList = (Token.stop "script").write := by decide
  have hmark : surveyTag.write = '<' :: surveyMark := by decide
  have hend : (Token.stop "script").write = '<' :: '/' :: "script>".toList := by decide
  -- The first tag of the survey is the one before the block, and the first end the one after it.
  have hbefore : ∀ rest, Text.Clear surveyTag.write (surveyTag.write ++ rest)
      ((preamble survey options).flatMap Token.write) := by
    rw [hmark]
    exact fun rest => (tame_preamble survey options).write _
  have hblock : ∀ rest, Text.Clear (Token.stop "script").write ((Token.stop "script").write ++ rest)
      (embeddedSurvey survey).toList := by
    rw [hend]
    exact fun rest => Text.clear_of_not_infix (by decide) (not_closer_embeddedSurvey survey)
  rw [surveyBlock?, hpage, htag, hstop, (hbefore _).dropInfix?]
  simp only [Option.bind_eq_bind, Option.bind_some, (hblock _).dropInfix?, String.ofList_toList,
    Option.pure_def]

/-- A page carries its survey whatever the texts of the survey and the options of the page: where a
browser looks for the survey it finds a text that holds no tag that could end it and opens no
comment, and that is loaded as the survey. -/
theorem surveyBlock_carries_survey (survey : Survey) (options : Options) (scripts : List String)
    (hids : survey.DistinctIds) (hnumbers : ∀ x ∈ survey.numbers, x.ReadsBack) :
    ∃ block, surveyBlock? (compile survey options scripts).html = some block ∧
      ¬ "</".toList <:+: block.toList ∧ ¬ "<!--".toList <:+: block.toList ∧
      Survey.load block = .ok survey :=
  ⟨embeddedSurvey survey, surveyBlock?_compile survey options scripts,
    not_closer_embeddedSurvey survey, not_comment_embeddedSurvey survey,
    Survey.load_of_parse? hids (parse?_embeddedSurvey hnumbers)⟩

/-- A survey whose texts imitate what stands around it in a page. -/
def mimicSurvey : Survey where
  id := "</script><!--"
  title := .localized ⟨[("<!--", "<</script>"), ("</", "\\</")], by decide⟩
  settings := { theme := { fontFamily := "</style><script type=\"application/json\"" } }
  questions :=
    [{ id := "<script type=\"application/json\" id=\"survey-definition\">",
       text := .plain "<script type=\"application/json\" id=\"survey-definition\">",
       body := .numeric { min := some Survey.half } },
     { id := "\"></noscript>", body := .openText { placeholder := .plain "<<!--/" } }]

/-- Options of a page that imitate the tag of the survey. -/
def mimicOptions : Options where
  title := some "</title><script type=\"application/json\" id=\"survey-definition\">"
  classPrefix := "<script type=\"application/json\" id=\"survey-definition\">"
  libraries := ["\"></script><script type=\"application/json\" id=\"survey-definition\">"]

/-- The page of a survey that imitates all around it carries it. -/
theorem surveyBlock_carries_survey_mimicSurvey :
    mimicSurvey.DistinctIds ∧ (∀ x ∈ mimicSurvey.numbers, x.ReadsBack) ∧
      ∃ block, surveyBlock? (compile mimicSurvey mimicOptions ["</script>"]).html = some block ∧
        ¬ "</".toList <:+: block.toList ∧ ¬ "<!--".toList <:+: block.toList ∧
        Survey.load block = .ok mimicSurvey := by
  have hnumbers : ∀ x ∈ mimicSurvey.numbers, x.ReadsBack := by
    have hlist : mimicSurvey.numbers = [Survey.half] := rfl
    simp [hlist, Survey.readsBack_half]
  have hids : mimicSurvey.DistinctIds := by decide
  exact ⟨hids, hnumbers, surveyBlock_carries_survey mimicSurvey mimicOptions _ hids hnumbers⟩

end Questionnaire.Page
