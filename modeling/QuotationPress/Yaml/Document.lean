import QuotationPress.Yaml.Meaning

/-!
# Data files

`Yaml.read` gives the value of a text that holds one document; an empty text holds null.
-/

namespace QuotationPress.Yaml

/-- The characters that a file may hold. -/
def isPrintable (c : Char) : Bool :=
  let n := c.toNat
  n == 9 || n == 10 || n == 13 || (0x20 ≤ n && n ≤ 0x7E) || n == 0x85 || (0xA0 ≤ n && n ≤ 0xD7FF)
    || (0xE000 ≤ n && n ≤ 0xFFFD) || 0x10000 ≤ n

/-- Every line break becomes a line feed. -/
def plainBreaks : List Char → List Char
  | '\r' :: '\n' :: rest => '\n' :: plainBreaks rest
  | '\r' :: rest => '\n' :: plainBreaks rest
  | c :: rest => c :: plainBreaks rest
  | [] => []

def read (s : String) : Outcome Value := do
  let cs := plainBreaks s.toList
  if !cs.all isPrintable then throw (.unreadableFile .unprintable)
  else
    let stream := TokenStream.ofText cs
    match ← Node.ofTokens? stream with
    | some n => n.value (2 * stream.ahead.length + 2)
    | none => return .null

end QuotationPress.Yaml
