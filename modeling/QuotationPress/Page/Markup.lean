import QuotationPress.Text.Escape

/-!
# The page as a tree of markup

Tags and attributes come from fixed vocabularies; texts and attribute values are escaped by
`Markup.chars`, which is the only way from a tree to characters. A style sheet is the one part that
is written as it stands.
-/

namespace QuotationPress

/-- Tags that enclose something. -/
inductive Tag where
  | html | head | title | body | div | headerBox | h1 | h2 | h3 | h4 | paragraph | span | sectionBox
  | dl | dt | dd | table | thead | tbody | tr | th | td
  deriving Repr, DecidableEq

/-- Tags that stand alone. -/
inductive VoidTag where
  | metadata | image
  deriving Repr, DecidableEq

inductive Attribute where
  | lang | charset | name | content | classes | style | src | alt | colspan
  deriving Repr, DecidableEq

def Tag.word : Tag → String
  | html => "html"
  | head => "head"
  | title => "title"
  | body => "body"
  | div => "div"
  | headerBox => "header"
  | h1 => "h1"
  | h2 => "h2"
  | h3 => "h3"
  | h4 => "h4"
  | paragraph => "p"
  | span => "span"
  | sectionBox => "section"
  | dl => "dl"
  | dt => "dt"
  | dd => "dd"
  | table => "table"
  | thead => "thead"
  | tbody => "tbody"
  | tr => "tr"
  | th => "th"
  | td => "td"

def VoidTag.word : VoidTag → String
  | metadata => "meta"
  | image => "img"

def Attribute.word : Attribute → String
  | lang => "lang"
  | charset => "charset"
  | name => "name"
  | content => "content"
  | classes => "class"
  | style => "style"
  | src => "src"
  | alt => "alt"
  | colspan => "colspan"

abbrev Attributes := List (Attribute × String)

inductive Markup where
  | text (s : String)
  | void (tag : VoidTag) (attributes : List (Attribute × String))
  | element (tag : Tag) (attributes : List (Attribute × String)) (children : List Markup)
  | styleSheet (css : String)

namespace Markup

def newline : Markup := text "\n"

def attributeChars (a : Attribute × String) : List Char :=
  ' ' :: a.1.word.toList ++ '=' :: '"' :: Text.escapeChars a.2.toList ++ ['"']

def startTag (name : String) (attributes : Attributes) : List Char :=
  '<' :: name.toList ++ attributes.flatMap attributeChars ++ ['>']

def endTag (name : String) : List Char := '<' :: '/' :: name.toList ++ ['>']

mutual

def chars : Markup → List Char
  | text s => Text.escapeChars s.toList
  | void tag attributes => startTag tag.word attributes
  | element tag attributes children =>
    startTag tag.word attributes ++ charsAll children ++ endTag tag.word
  | styleSheet css => startTag "style" [] ++ css.toList ++ endTag "style"

def charsAll : List Markup → List Char
  | [] => []
  | m :: rest => chars m ++ charsAll rest

end

def render (m : Markup) : String := String.ofList m.chars

/-- An element whose only attribute is its class. -/
def classed (tag : Tag) (name : String) (children : List Markup) : Markup :=
  element tag [(.classes, name)] children

/-- An element with one text in it. -/
def holding (tag : Tag) (s : String) : Markup := element tag [] [text s]

/-- The part and a line break, when the condition holds. -/
def lineIf (condition : Bool) (m : Markup) : List Markup := if condition then [m, newline] else []

end Markup

end QuotationPress
