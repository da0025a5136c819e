/-!
# Markup

A page is written as a list of tokens: tags with attributes, text, and markup that is fixed. Text
and the values of attributes come from the survey and are escaped when the tokens are written, so
what they hold can neither open nor close a tag or an attribute.
-/

namespace Questionnaire.Page

/-! ## Escaping -/

/-- The text with every occurrence of a character replaced. -/
def substitute (c : Char) (replacement : List Char) (cs : List Char) : List Char :=
  cs.flatMap fun x => if x = c then replacement else [x]

/-- The characters with a meaning in markup and the entities that stand for them. The ampersand
comes first: those of the entities are not to be replaced again. -/
def entities : List (Char × List Char) :=
  [('&', "&amp;".toList), ('<', "&lt;".toList), ('>', "&gt;".toList), ('"', "&quot;".toList),
   ('\'', "&#39;".toList)]

/-- The text with an entity for each character that has a meaning in markup. -/
def escapeChars (cs : List Char) : List Char :=
  entities.foldl (fun cs entity => substitute entity.1 entity.2 cs) cs

/-- The text as it is written in markup. -/
def escape (s : String) : String :=
  String.ofList (escapeChars s.toList)

/-! ## Tokens -/

/-- An attribute of a tag. -/
structure Attribute where
  /-- The name. -/
  name : String
  /-- The value, where the attribute has one. -/
  value : Option String
deriving DecidableEq

/-- A part of a page. -/
inductive Token where
  /-- The start of an element. -/
  | start (element : String) (attributes : List Attribute)
  /-- The end of an element. -/
  | stop (element : String)
  /-- Text, which is escaped. -/
  | text (content : String)
  /-- Markup that is written as it is. -/
  | fixed (markup : String)
deriving DecidableEq

/-- An attribute with a value. -/
def attr (name value : String) : Attribute :=
  ⟨name, some value⟩

/-- An element with what it contains. -/
def element (name : String) (attributes : List Attribute) (content : List Token) : List Token :=
  .start name attributes :: (content ++ [.stop name])

/-- Tokens on a line of their own, indented by the given number of blanks. -/
def line (indent : Nat) (tokens : List Token) : List Token :=
  .fixed (String.ofList (List.replicate indent ' ')) :: (tokens ++ [.fixed "\n"])

/-- An attribute as it is written in a tag. -/
def Attribute.write (a : Attribute) : List Char :=
  match a.value with
  | some value => ' ' :: (a.name.toList ++ '=' :: '"' :: (escapeChars value.toList ++ ['"']))
  | none => ' ' :: a.name.toList

/-- A token as it is written. -/
def Token.write : Token → List Char
  | .start element attributes =>
    '<' :: (element.toList ++ attributes.flatMap Attribute.write ++ ['>'])
  | .stop element => '<' :: '/' :: (element.toList ++ ['>'])
  | .text content => escapeChars content.toList
  | .fixed markup => markup.toList

/-- The written page. -/
def render (tokens : List Token) : String :=
  String.ofList (tokens.flatMap Token.write)

end Questionnaire.Page
