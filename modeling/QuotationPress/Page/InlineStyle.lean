import QuotationPress.Text.Case
import QuotationPress.Value.Text

/-!
# The style of one element

`inlineStyle` writes the entries of a style object as declarations, the camel case names in kebab
case; `InlineStyle.length` is the text of a length.
-/

namespace QuotationPress

namespace InlineStyle

def isSmall (c : Char) : Bool := ('a' ≤ c && c ≤ 'z') || ('0' ≤ c && c ≤ '9')

def isCapital (c : Char) : Bool := 'A' ≤ c && c ≤ 'Z'

/-- A hyphen before every capital that follows a small letter or a digit; `before` is the character
in front. -/
def hyphenated (before : Char) : List Char → List Char
  | [] => []
  | c :: rest =>
    if isSmall before && isCapital c then '-' :: c :: hyphenated c rest else c :: hyphenated c rest

/-- `font-size` for `fontSize`. -/
def kebab (name : String) : String := String.ofList (Text.lower (hyphenated ' ' name.toList))

/-- Null, the empty text, objects and lists declare nothing. -/
def isDeclared : Value → Bool
  | .null => false
  | .str s => !s.isEmpty
  | .obj _ => false
  | .keyed _ => false
  | .list _ => false
  | _ => true

def declarations : Fields → Outcome (List String)
  | [] => .ok []
  | (key, v) :: rest =>
    if isDeclared v then do return (kebab key ++ ": " ++ (← v.text)) :: (← declarations rest)
    else declarations rest

/-- A number is a count of pixels. -/
def length : Value → Outcome String
  | .int i =>
    let x := Binary64.ofInt i
    if x.isFinite then .ok (String.ofList x.lengthText ++ "px") else .error .numberTooLarge
  | .float x => .ok (String.ofList x.lengthText ++ "px")
  | v => v.text

end InlineStyle

def inlineStyle (style : Fields) : Outcome String := do
  return Value.joinedBy "; " (← InlineStyle.declarations style)

end QuotationPress
