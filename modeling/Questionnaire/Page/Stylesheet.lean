import Questionnaire.Settings

/-!
# The style sheet

The looks of a page are a fixed list of rules in which the theme fills in colours and the font, and
the class prefix fills in the names. The rules are kept as data: a selector, and declarations of a
property and a value. In the texts of selectors, properties and values an at-sign stands for the
class prefix. What is filled in loses the characters that could end a declaration, a rule or the
style element.
-/

namespace Questionnaire.Page

/-- What the theme fills in. -/
inductive Paint where
  /-- The colour of titles, marks and buttons. -/
  | primary
  /-- The colour behind everything. -/
  | background
  /-- The colour of text. -/
  | text
  /-- The font. -/
  | font
deriving DecidableEq

/-- The value of a declaration. -/
inductive StyleValue where
  /-- A text in which an at-sign stands for the class prefix. -/
  | fixed (template : String)
  /-- What the theme says. -/
  | painted (paint : Paint)
deriving DecidableEq

/-- A declaration of a style rule. -/
structure Declaration where
  /-- The property, in which an at-sign stands for the class prefix. -/
  property : String
  /-- The value. -/
  value : StyleValue
deriving DecidableEq

/-- A style rule. -/
structure StyleRule where
  /-- What the rule applies to, where an at-sign stands for the class prefix. -/
  selector : String
  /-- What the rule says. -/
  declarations : List Declaration
deriving DecidableEq

/-! ## Filling in -/

/-- Whether a character could end a declaration, a rule or the style element. -/
def endsStyle (c : Char) : Bool :=
  c == '<' || c == '>' || c == '{' || c == '}' || c == ';'

/-- A text of the survey as it may stand in a style sheet. -/
def styleText (s : String) : List Char :=
  s.toList.filter fun c => !endsStyle c

/-- A template with the class prefix filled in. -/
def fillIn (classPrefix : List Char) (template : String) : List Char :=
  template.toList.flatMap fun c => if c = '@' then classPrefix else [c]

/-- What the theme says of a colour or the font. -/
def Paint.of (theme : Theme) : Paint → String
  | .primary => theme.primaryColor
  | .background => theme.backgroundColor
  | .text => theme.textColor
  | .font => theme.fontFamily

/-- A value as it is written. -/
def StyleValue.write (theme : Theme) (classPrefix : List Char) : StyleValue → List Char
  | .fixed template => fillIn classPrefix template
  | .painted paint => styleText (paint.of theme)

/-- A declaration as it is written, on a line of its own. -/
def Declaration.write (theme : Theme) (classPrefix : List Char) (d : Declaration) : List Char :=
  "      ".toList ++ fillIn classPrefix d.property ++ ':' :: ' ' ::
    (d.value.write theme classPrefix ++ [';', '\n'])

/-- A rule as it is written. -/
def StyleRule.write (theme : Theme) (classPrefix : List Char) (rule : StyleRule) : List Char :=
  "    ".toList ++ fillIn classPrefix rule.selector ++ ' ' :: '{' :: '\n' ::
    (rule.declarations.flatMap (Declaration.write theme classPrefix) ++
      "    ".toList ++ ['}', '\n'])

/-! ## The rules -/

/-- The declarations of properties with fixed values. -/
def declare (entries : List (String × String)) : List Declaration :=
  entries.map fun entry => ⟨entry.1, .fixed entry.2⟩

/-- The rules for the page as a whole. -/
def pageRules : List StyleRule :=
  [⟨".@-root, .@-form",
     [⟨"--@-primary", .painted .primary⟩, ⟨"--@-background", .painted .background⟩,
      ⟨"--@-text", .painted .text⟩, ⟨"--@-font", .painted .font⟩]⟩,
   ⟨"body",
     [⟨"margin", .fixed "0"⟩, ⟨"background", .painted .background⟩, ⟨"color", .painted .text⟩,
      ⟨"font-family", .painted .font⟩]⟩,
   ⟨".@-container, .@-form",
     declare [("max-width", "640px"), ("margin", "2rem auto"), ("padding", "1rem")]⟩,
   ⟨".@-title", declare [("margin", "0 0 0.5rem"), ("color", "var(--@-primary)")]⟩,
   ⟨".@-description",
     declare [("margin", "0.25rem 0 0.75rem"), ("opacity", "0.8"), ("white-space", "pre-wrap")]⟩,
   ⟨".@-language", declare [("float", "right")]⟩,
   ⟨".@-progress",
     declare [("height", "6px"), ("margin", "1rem 0"), ("border-radius", "3px"),
      ("background", "rgba(0, 0, 0, 0.08)"), ("overflow", "hidden")]⟩,
   ⟨".@-progress-fill",
     declare [("height", "100%"), ("background", "var(--@-primary)"),
      ("transition", "width 0.2s ease")]⟩,
   ⟨".@-section-title",
     declare [("border-bottom", "2px solid var(--@-primary)"), ("padding-bottom", "0.25rem")]⟩]

/-- The rules for the fields of questions. -/
def fieldRules : List StyleRule :=
  [⟨".@-field", declare [("margin", "1rem 0")]⟩,
   ⟨".@-field > label, .@-field legend",
     declare [("display", "block"), ("margin-bottom", "0.5rem"), ("font-weight", "600")]⟩,
   ⟨".@-required", declare [("color", "var(--@-primary)")]⟩,
   ⟨".@-input, .@-select",
     declare [("width", "100%"), ("padding", "0.5rem"), ("box-sizing", "border-box"),
      ("font", "inherit")]⟩,
   ⟨".@-option", declare [("display", "block"), ("margin", "0.25rem 0")]⟩,
   ⟨".@-likert", declare [("display", "flex"), ("align-items", "center"), ("gap", "0.5rem")]⟩,
   ⟨".@-likert-point",
     declare [("min-width", "2.5rem"), ("padding", "0.5rem"),
      ("border", "1px solid var(--@-primary)"), ("background", "transparent"),
      ("color", "inherit"), ("cursor", "pointer")]⟩,
   ⟨".@-likert-point.@-selected, .@-likert-point:hover",
     declare [("background", "var(--@-primary)"), ("color", "#ffffff")]⟩,
   ⟨".@-matrix", declare [("width", "100%"), ("border-collapse", "collapse")]⟩,
   ⟨".@-matrix th, .@-matrix td",
     declare [("padding", "0.25rem 0.5rem"), ("text-align", "center")]⟩,
   ⟨".@-matrix tr > th:first-child", declare [("text-align", "left")]⟩,
   ⟨".@-ranking-item", declare [("margin", "0.25rem 0")]⟩,
   ⟨".@-ranking-up", declare [("margin-left", "0.5rem")]⟩,
   ⟨".@-error", declare [("color", "#b91c1c")]⟩]

/-- The rules for buttons and the summary. -/
def controlRules : List StyleRule :=
  [⟨".@-nav",
     declare [("display", "flex"), ("justify-content", "space-between"),
      ("margin-top", "1.5rem")]⟩,
   ⟨".@-button",
     declare [("padding", "0.5rem 1.25rem"), ("border", "none"), ("border-radius", "4px"),
      ("background", "var(--@-primary)"), ("color", "#ffffff"), ("font", "inherit"),
      ("cursor", "pointer")]⟩,
   ⟨".@-button.@-secondary",
     declare [("background", "transparent"), ("color", "var(--@-primary)"),
      ("border", "1px solid var(--@-primary)")]⟩,
   ⟨".@-button:disabled", declare [("opacity", "0.4"), ("cursor", "default")]⟩,
   ⟨".@-summary dt", declare [("font-weight", "600"), ("margin-top", "0.5rem")]⟩,
   ⟨".@-summary dd", declare [("margin-left", "0")]⟩]

/-- All rules, in order. -/
def styleRules : List StyleRule :=
  pageRules ++ fieldRules ++ controlRules

/-- The written style sheet of a theme, with the given prefix to all classes. -/
def stylesheet (theme : Theme) (classPrefix : String) : String :=
  String.ofList (styleRules.flatMap (StyleRule.write theme (styleText classPrefix)))

end Questionnaire.Page
