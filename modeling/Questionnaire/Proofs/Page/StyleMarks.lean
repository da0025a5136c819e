import Questionnaire.Proofs.Page.Stylesheet
import Questionnaire.Proofs.Text.Occurrence

/-!
# What gets into a style sheet

A `url(` in a style sheet makes the page fetch something, and an opened comment disables the rules
that follow it. Neither is kept out of a style sheet: what is filled in loses the characters that
would end a declaration, a rule or the style element, and no others (`not_forall_selfContained`).

The rules themselves have neither mark, and what is filled in stands in them between characters that
are in neither (`isFenced`), so no mark is put together from a part of a rule and a part of what is
filled in. That leaves the texts that are filled in: a style sheet has one of these marks exactly if
one of these texts has it after the filter (`selfContained_iff`). A mark that the filter puts
together from the parts of a text counts too.
-/

namespace Questionnaire.Page

/-! ## Marks -/

/-- A text has a `url(` in it, in upper or lower case. -/
def NamesUrl (cs : List Char) : Prop :=
  "url(".toList <:+: cs.map Char.toLower

/-- A text opens a comment. -/
def OpensComment (cs : List Char) : Prop :=
  "/*".toList <:+: cs

/-! ## Fences -/

/-- Whether a piece is filled in. -/
def Piece.isFilledIn : Piece → Bool
  | .char _ => false
  | _ => true

/-- Whether each piece that is filled in stands between characters of the rules that the mark does
not have, and the mark is not in the rules. Characters are folded first. The run is what has been
written since the last character that the mark does not have. -/
def isFenced (fold : Char → Char) (mark run : List Char) : List Piece → Bool
  | [] => !decide (mark <:+: run)
  | .char c :: rest =>
    if fold c ∈ mark then isFenced fold mark (run ++ [fold c]) rest
    else !decide (mark <:+: run) && isFenced fold mark [] rest
  | _ :: .char c :: rest => run.isEmpty && !decide (fold c ∈ mark) && isFenced fold mark [] rest
  | _ => false

/-- Between fences, the mark is where it is in a piece that is filled in, and nowhere else. -/
theorem infix_pieces_iff {fold : Char → Char} {mark run : List Char} {pieces : List Piece}
    (h : isFenced fold mark run pieces = true) (theme : Theme) (classPrefix : List Char) :
    mark <:+: run ++ (pieces.flatMap (Piece.write theme classPrefix)).map fold ↔
      ∃ piece ∈ pieces, piece.isFilledIn = true ∧
        mark <:+: (piece.write theme classPrefix).map fold := by
  fun_induction isFenced fold mark run pieces with
  | case1 run => simpa using h
  | case2 run c rest hmem ih =>
    -- The character may belong to the mark, so the run goes on.
    simpa [Piece.write, Piece.isFilledIn] using ih h
  | case3 run c rest hmem ih =>
    -- A run ends here, and the mark is not in it.
    obtain ⟨hrun, hrest⟩ : ¬ mark <:+: run ∧ isFenced fold mark [] rest = true := by simpa using h
    simpa [Piece.write, Piece.isFilledIn, Text.infix_append_cons_iff hmem, hrun] using ih hrest
  | case4 run piece c rest hpiece ih =>
    -- What is filled in follows an empty run, and a fence follows it.
    obtain ⟨⟨rfl, hmem⟩, hrest⟩ :
        (run = [] ∧ fold c ∉ mark) ∧ isFenced fold mark [] rest = true := by
      simpa using h
    have hfilled : piece.isFilledIn = true := by
      cases piece with
      | char d => exact absurd rfl (hpiece d)
      | classPrefix => rfl
      | painted paint => rfl
    have hwrite : Piece.write theme classPrefix (.char c) = [c] := rfl
    have hfence : (Piece.char c).isFilledIn = false := rfl
    have hparts := ih hrest
    rw [List.nil_append] at hparts
    simp only [List.flatMap_cons, hwrite, List.map_append, List.map_cons, List.map_nil,
      List.nil_append, List.singleton_append, Text.infix_append_cons_iff hmem, hparts,
      List.exists_mem_cons_iff, hfilled, hfence, Bool.false_eq_true, false_and, true_and, false_or]
  | case5 => cases h

/-! ## The style sheet -/

/-- The texts that are filled into a style sheet. -/
def filledIn (theme : Theme) (classPrefix : String) : List String :=
  [theme.primaryColor, theme.backgroundColor, theme.textColor, theme.fontFamily, classPrefix]

/-- Every text is filled in somewhere, and there are no others. -/
theorem exists_filledIn_iff {theme : Theme} {classPrefix : String} {P : List Char → Prop} :
    (∃ piece ∈ sheetPieces, piece.isFilledIn = true ∧
        P (piece.write theme (styleText classPrefix))) ↔
      ∃ s ∈ filledIn theme classPrefix, P (styleText s) := by
  have hmem : ∀ piece ∈ [Piece.painted .primary, .painted .background, .painted .text,
      .painted .font, .classPrefix], piece ∈ sheetPieces := by
    decide +kernel
  simp only [List.forall_mem_cons] at hmem
  obtain ⟨hprimary, hbackground, htext, hfont, hclass, -⟩ := hmem
  simp only [filledIn, List.exists_mem_cons_iff, List.not_mem_nil, false_and, exists_false,
    or_false]
  constructor
  · rintro ⟨piece, -, hfilled, hpiece⟩
    cases piece with
    | char c => cases hfilled
    | classPrefix => exact .inr (.inr (.inr (.inr hpiece)))
    | painted paint =>
      cases paint with
      | primary => exact .inl hpiece
      | background => exact .inr (.inl hpiece)
      | text => exact .inr (.inr (.inl hpiece))
      | font => exact .inr (.inr (.inr (.inl hpiece)))
  · rintro (h | h | h | h | h)
    · exact ⟨_, hprimary, rfl, h⟩
    · exact ⟨_, hbackground, rfl, h⟩
    · exact ⟨_, htext, rfl, h⟩
    · exact ⟨_, hfont, rfl, h⟩
    · exact ⟨_, hclass, rfl, h⟩

/-- A mark between fences is in a style sheet exactly if it is in a text that is filled in. -/
theorem infix_stylesheet_iff {fold : Char → Char} {mark : List Char}
    (h : isFenced fold mark [] sheetPieces = true) (theme : Theme) (classPrefix : String) :
    mark <:+: (stylesheet theme classPrefix).toList.map fold ↔
      ∃ s ∈ filledIn theme classPrefix, mark <:+: (styleText s).map fold := by
  rw [toList_stylesheet, ← exists_filledIn_iff (P := fun cs => mark <:+: cs.map fold)]
  exact infix_pieces_iff h theme (styleText classPrefix)

/-- A style sheet has a `url(` exactly if a text that is filled in has one after the filter. -/
theorem namesUrl_stylesheet_iff (theme : Theme) (classPrefix : String) :
    NamesUrl (stylesheet theme classPrefix).toList ↔
      ∃ s ∈ filledIn theme classPrefix, NamesUrl (styleText s) := by
  have hfenced : isFenced Char.toLower "url(".toList [] sheetPieces = true := by
    decide +kernel
  exact infix_stylesheet_iff hfenced theme classPrefix

/-- A style sheet opens a comment exactly if a text that is filled in does after the filter. -/
theorem opensComment_stylesheet_iff (theme : Theme) (classPrefix : String) :
    OpensComment (stylesheet theme classPrefix).toList ↔
      ∃ s ∈ filledIn theme classPrefix, OpensComment (styleText s) := by
  have hfenced : isFenced id "/*".toList [] sheetPieces = true := by
    decide +kernel
  simpa [OpensComment] using infix_stylesheet_iff hfenced theme classPrefix

/-- A style sheet fetches nothing and disables none of its rules exactly if none of the texts that
are filled in could, as the filter leaves them. -/
theorem selfContained_iff (theme : Theme) (classPrefix : String) :
    (NamesUrl (stylesheet theme classPrefix).toList ↔
        ∃ s ∈ filledIn theme classPrefix, NamesUrl (styleText s)) ∧
      (OpensComment (stylesheet theme classPrefix).toList ↔
        ∃ s ∈ filledIn theme classPrefix, OpensComment (styleText s)) :=
  ⟨namesUrl_stylesheet_iff theme classPrefix, opensComment_stylesheet_iff theme classPrefix⟩

/-- A theme that has a picture for a colour. -/
def pictureTheme : Theme where
  backgroundColor := "URL(//pictures.example/seen.png)"

/-- A theme whose colour of text opens a comment. -/
def mutedTheme : Theme where
  textColor := "black/*"

/-- A theme can make a style sheet fetch something, and disable the rules that follow it. -/
theorem not_forall_selfContained :
    (¬ ∀ (theme : Theme) (classPrefix : String),
        ¬ NamesUrl (stylesheet theme classPrefix).toList) ∧
      ¬ ∀ (theme : Theme) (classPrefix : String),
        ¬ OpensComment (stylesheet theme classPrefix).toList := by
  have hurl : NamesUrl (styleText pictureTheme.backgroundColor) := by
    unfold NamesUrl
    decide +kernel
  have hcomment : OpensComment (styleText mutedTheme.textColor) := by
    unfold OpensComment
    decide +kernel
  exact ⟨fun h => h pictureTheme "survey"
      ((namesUrl_stylesheet_iff _ _).2 ⟨_, by simp [filledIn], hurl⟩),
    fun h => h mutedTheme "survey"
      ((opensComment_stylesheet_iff _ _).2 ⟨_, by simp [filledIn], hcomment⟩)⟩

end Questionnaire.Page
