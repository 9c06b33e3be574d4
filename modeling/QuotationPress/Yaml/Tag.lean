import QuotationPress.Number.Numeral
import QuotationPress.Text.Digit
import QuotationPress.Text.Split

/-!
# What a part of a data file is meant to be

`Tag.ofUri` reads a tag that the text spells out, and `Tag.ofWord` tells from a word without quote
marks whether it stands for null, a flag, a number, a moment or itself.
-/

namespace QuotationPress.Yaml

open Text (isAsciiDigit)

inductive Tag where
  | null | flag | whole | real | stamp | text | list | object
  /-- A list of pairs, each written as an object of one entry. -/
  | pairs
  /-- An object whose values do not count. -/
  | members
  | bytes
  /-- The key under which the entries of other objects are merged into one. -/
  | merge
  /-- The key of the value that stands for a whole object. -/
  | standIn
  | unknown
  deriving DecidableEq

namespace Tag

/-! ### Tags that are spelled out -/

/-- How the tags of the notation itself begin. -/
def commonStart : String := "tag:yaml.org,2002:"

def commonTags : List (String × Tag) :=
  [("null", null), ("bool", flag), ("int", whole), ("float", real), ("timestamp", stamp),
   ("str", text), ("seq", list), ("map", object), ("pairs", pairs), ("omap", pairs),
   ("set", members), ("binary", bytes), ("merge", merge), ("value", standIn)]

def ofUri (uri : String) : Tag :=
  ((commonTags.find? fun t => commonStart ++ t.1 = uri).map Prod.snd).getD unknown

end Tag

/-! ### Words -/

def nullWords : List String := ["", "~", "null", "Null", "NULL"]

def trueWords : List String := ["yes", "Yes", "YES", "true", "True", "TRUE", "on", "On", "ON"]

def falseWords : List String := ["no", "No", "NO", "false", "False", "FALSE", "off", "Off", "OFF"]

def withoutSign : List Char → List Char
  | '-' :: rest => rest
  | '+' :: rest => rest
  | cs => cs

def isDigitOrLine (c : Char) : Bool := isAsciiDigit c || c == '_'

/-- A digit, and then digits and low lines. -/
def isDigitRun : List Char → Bool
  | c :: rest => isAsciiDigit c && rest.all isDigitOrLine
  | [] => false

def withoutLines (cs : List Char) : List Char := cs.filter (· ≠ '_')

/-- One or two digits that stand for a number below sixty. -/
def isSixtieth : List Char → Bool
  | [a] => isAsciiDigit a
  | [a, b] => '0' ≤ a && a ≤ '5' && isAsciiDigit b
  | _ => false

def isBinaryDigit (c : Char) : Bool := c == '0' || c == '1' || c == '_'

def isOctalDigit (c : Char) : Bool := ('0' ≤ c && c ≤ '7') || c == '_'

def isHexDigit (c : Char) : Bool := (Text.hexValue? c).isSome || c == '_'

/-- A whole number. A leading zero announces another base, and colons stand between sixtieths. -/
def isWholeWord (cs : List Char) : Bool :=
  match withoutSign cs with
  | ['0'] => true
  | '0' :: 'b' :: ds => !ds.isEmpty && ds.all isBinaryDigit
  | '0' :: 'x' :: ds => !ds.isEmpty && ds.all isHexDigit
  | '0' :: ds => ds.all isOctalDigit
  | body =>
    match Text.splitChars ':' body with
    | first :: sixtieths => isDigitRun first && sixtieths.all isSixtieth
    | [] => false

/-- An exponent with a sign, or nothing. -/
def isScale : List Char → Bool
  | [] => true
  | e :: sign :: ds =>
    (e == 'e' || e == 'E') && (sign == '+' || sign == '-') && !ds.isEmpty && ds.all isAsciiDigit
  | _ => false

def infinityWords : List String := [".inf", ".Inf", ".INF"]

def nanWords : List String := [".nan", ".NaN", ".NAN"]

/-- A number with a point. One that begins with it has no sign; one in sixties has no exponent. -/
def isPointedWord (cs : List Char) : Bool :=
  let body := withoutSign cs
  let fraction := ((body.dropWhile (· ≠ '.')).drop 1).takeWhile isDigitOrLine
  let tail := ((body.dropWhile (· ≠ '.')).drop 1).dropWhile isDigitOrLine
  body.contains '.' &&
    match Text.splitChars ':' (body.takeWhile (· ≠ '.')) with
    | [[]] => body.length = cs.length && isDigitRun fraction && isScale tail
    | [front] => isDigitRun front && isScale tail
    | front :: sixtieths => isDigitRun front && sixtieths.all isSixtieth && tail.isEmpty
    | [] => false

def isRealWord (cs : List Char) : Bool :=
  nanWords.contains (String.ofList cs) || infinityWords.contains (String.ofList (withoutSign cs))
    || isPointedWord cs

end QuotationPress.Yaml
