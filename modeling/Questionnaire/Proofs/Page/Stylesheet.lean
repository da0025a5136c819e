import Mathlib.Data.List.Basic
import Questionnaire.Page.Stylesheet

/-!
# Themes do not break out of the style sheet

A style sheet is a sequence of pieces that the theme and the class prefix have no part in
(`sheetPieces`): characters that the rules are written with, and places where the prefix, a colour
or the font is filled in. What is filled in has none of the characters that end a declaration, open
or close a rule, or close the style element. So these characters come from the rules alone, and
stand in every style sheet in the same order: each rule opens once, ends each of its declarations
once and closes once (`styleDelimiters_stylesheet`).
-/

namespace Questionnaire.Page

/-! ## Pieces -/

/-- A piece of a style sheet. -/
inductive Piece where
  /-- A character of the rules. -/
  | char (c : Char)
  /-- The class prefix. -/
  | classPrefix
  /-- What the theme fills in. -/
  | painted (paint : Paint)
deriving DecidableEq

/-- A piece as it is written. -/
def Piece.write (theme : Theme) (classPrefix : List Char) : Piece → List Char
  | .char c => [c]
  | .classPrefix => classPrefix
  | .painted paint => styleText (paint.of theme)

/-- The pieces of a text that is written as it is. -/
def plainPieces (s : String) : List Piece :=
  s.toList.map .char

/-- The pieces of a template. -/
def templatePieces (template : String) : List Piece :=
  template.toList.map fun c => if c = '@' then .classPrefix else .char c

/-- The pieces of a value. -/
def StyleValue.pieces : StyleValue → List Piece
  | .fixed template => templatePieces template
  | .painted paint => [.painted paint]

/-- The pieces of a declaration. -/
def Declaration.pieces (d : Declaration) : List Piece :=
  plainPieces "      " ++ templatePieces d.property ++ .char ':' :: .char ' ' ::
    (d.value.pieces ++ [.char ';', .char '\n'])

/-- The pieces of a rule. -/
def StyleRule.pieces (rule : StyleRule) : List Piece :=
  plainPieces "    " ++ templatePieces rule.selector ++ .char ' ' :: .char '{' :: .char '\n' ::
    (rule.declarations.flatMap Declaration.pieces ++ plainPieces "    " ++
      [.char '}', .char '\n'])

/-- The pieces of every style sheet. -/
def sheetPieces : List Piece :=
  styleRules.flatMap StyleRule.pieces

section Written

variable (theme : Theme) (classPrefix : List Char)

@[simp]
theorem flatMap_plainPieces (s : String) :
    (plainPieces s).flatMap (Piece.write theme classPrefix) = s.toList := by
  simp [plainPieces, List.flatMap_map, Piece.write]

@[simp]
theorem flatMap_templatePieces (template : String) :
    (templatePieces template).flatMap (Piece.write theme classPrefix) =
      fillIn classPrefix template := by
  rw [templatePieces, List.flatMap_map, fillIn]
  congr 1
  funext c
  split <;> rfl

@[simp]
theorem StyleValue.flatMap_pieces (value : StyleValue) :
    value.pieces.flatMap (Piece.write theme classPrefix) = value.write theme classPrefix := by
  cases value with
  | fixed template => exact flatMap_templatePieces theme classPrefix template
  | painted paint => exact List.flatMap_singleton _ _

@[simp]
theorem Declaration.flatMap_pieces (d : Declaration) :
    d.pieces.flatMap (Piece.write theme classPrefix) = d.write theme classPrefix := by
  -- The equations of the writer and of its pieces take long to make, with the texts in them.
  delta pieces write
  simp [Piece.write]

@[simp]
theorem StyleRule.flatMap_pieces (rule : StyleRule) :
    rule.pieces.flatMap (Piece.write theme classPrefix) = rule.write theme classPrefix := by
  delta pieces write
  simp [Piece.write, List.flatMap_assoc]

end Written

/-- A style sheet is its pieces, with the theme and the prefix filled in. -/
theorem toList_stylesheet (theme : Theme) (classPrefix : String) :
    (stylesheet theme classPrefix).toList =
      sheetPieces.flatMap (Piece.write theme (styleText classPrefix)) := by
  simp [stylesheet, sheetPieces, List.flatMap_assoc]

/-! ## Delimiters -/

/-- Whether a character ends a declaration, opens or closes a rule, or can close the style
element. -/
def isStyleDelimiter (c : Char) : Bool :=
  c ∈ ['{', '}', ';', '<', '>']

/-- The delimiters in a style sheet, in order. -/
def styleDelimiters (cs : List Char) : List Char :=
  cs.filter isStyleDelimiter

/-- What is filled in has no delimiters. -/
theorem styleDelimiters_styleText (s : String) : styleDelimiters (styleText s) = [] := by
  refine List.filter_eq_nil_iff.2 fun c hc hdelimiter => ?_
  have hends : endsStyle c = false := by simpa using (List.mem_filter.1 hc).2
  have hchar : c ∈ ['{', '}', ';', '<', '>'] := of_decide_eq_true hdelimiter
  simp only [List.mem_cons, List.not_mem_nil, or_false] at hchar
  rcases hchar with rfl | rfl | rfl | rfl | rfl
  all_goals cases hends

/-- The delimiters of a piece: a character of the rules, if it is one. -/
def Piece.delimiters : Piece → List Char
  | .char c => styleDelimiters [c]
  | _ => []

theorem Piece.styleDelimiters_write (piece : Piece) (theme : Theme) (classPrefix : String) :
    styleDelimiters (piece.write theme (styleText classPrefix)) = piece.delimiters := by
  cases piece with
  | char c => rfl
  | classPrefix => exact styleDelimiters_styleText classPrefix
  | painted paint => exact styleDelimiters_styleText _

/-- The delimiters of a rule: those of its selector, the brace that opens it, the end of each of its
declarations, and the brace that closes it. -/
def StyleRule.delimiters (rule : StyleRule) : List Char :=
  styleDelimiters rule.selector.toList ++
    '{' :: (rule.declarations.map fun _ => ';') ++ ['}']

/-- The delimiters of a style sheet are those of its rules. -/
theorem styleDelimiters_toList (theme : Theme) (classPrefix : String) :
    styleDelimiters (stylesheet theme classPrefix).toList =
      styleRules.flatMap StyleRule.delimiters := by
  have hrules : sheetPieces.flatMap Piece.delimiters = styleRules.flatMap StyleRule.delimiters := by
    decide +kernel
  rw [toList_stylesheet, styleDelimiters, List.filter_flatMap, ← hrules]
  exact List.flatMap_congr fun piece _ => piece.styleDelimiters_write theme classPrefix

/-- No tag starts in a style sheet, whatever the theme and the prefix. -/
theorem not_mem_stylesheet (theme : Theme) (classPrefix : String) :
    '<' ∉ (stylesheet theme classPrefix).toList := by
  intro hmem
  have hdelimiter : '<' ∈ styleDelimiters (stylesheet theme classPrefix).toList :=
    List.mem_filter.2 ⟨hmem, by decide⟩
  have hrules : '<' ∉ styleRules.flatMap StyleRule.delimiters := by
    decide +kernel
  exact hrules (styleDelimiters_toList theme classPrefix ▸ hdelimiter)

/-- No theme and no class prefix changes the delimiters of the style sheet. They are the same in any
two, and are those of the rules: whatever is filled in, it ends no declaration, opens and closes no
rule, and does not close the style element. -/
theorem styleDelimiters_stylesheet (theme other : Theme) (classPrefix otherPrefix : String) :
    styleDelimiters (stylesheet theme classPrefix).toList =
        styleDelimiters (stylesheet other otherPrefix).toList ∧
      styleDelimiters (stylesheet theme classPrefix).toList =
        styleRules.flatMap StyleRule.delimiters :=
  ⟨(styleDelimiters_toList theme classPrefix).trans (styleDelimiters_toList other otherPrefix).symm,
    styleDelimiters_toList theme classPrefix⟩

end Questionnaire.Page
