/-!
# The tokens of a data file

Tokens are the marks, the words and the quoted texts that it is made of, and the beginnings and ends
of blocks, which only the indentation tells.
-/

namespace QuotationPress.Yaml

/-- A line before a document that says how it is to be read. -/
inductive Directive where
  /-- The version of the notation, whose first number is `major`. -/
  | version (major : Nat)
  /-- Tags with the handle `handle` begin with `start`. -/
  | handle (handle start : String)
  | other
  deriving DecidableEq

inductive Token where
  | directive (d : Directive)
  | documentStart
  | documentEnd
  /-- A block of items begins, each behind a hyphen. -/
  | itemsStart
  /-- A block of entries begins. -/
  | entriesStart
  | blockEnd
  | listStart
  | listEnd
  | mapStart
  | mapEnd
  | item
  | comma
  | key
  | value
  /-- The part of the text that bears the name `name`, once more. -/
  | alias (name : String)
  /-- What follows bears the name `name`. -/
  | anchor (name : String)
  /-- What follows is marked as something. -/
  | tag (handle : Option String) (suffix : String)
  /-- A text; `isPlain` when it has no quote marks and is no block of lines. -/
  | scalar (text : String) (isPlain : Bool)
  | streamEnd
  deriving DecidableEq

end QuotationPress.Yaml
