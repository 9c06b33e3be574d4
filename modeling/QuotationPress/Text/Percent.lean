import QuotationPress.Text.Digit
import QuotationPress.Text.Utf8

/-!
# Escapes of bytes in web addresses

A byte is escaped as in `%20`. `percentBytes` gives the bytes that a text stands for, and
`percentDecoded` the text of those bytes; a mark without two digits stands for itself.
-/

namespace QuotationPress.Text

/-- The byte of two hexadecimal digits. -/
def hexByte? (a b : Char) : Option UInt8 := do
  let high ← hexValue? a
  let low ← hexValue? b
  return UInt8.ofNat (high * 16 + low)

def percentBytes : List Char → List UInt8
  | '%' :: a :: b :: rest =>
    match hexByte? a b with
    | some byte => byte :: percentBytes rest
    | none => String.utf8EncodeChar '%' ++ percentBytes (a :: b :: rest)
  | c :: rest => String.utf8EncodeChar c ++ percentBytes rest
  | [] => []

/-- The text that `s` spells. -/
def percentDecoded (s : String) : String := String.ofList (utf8Chars (percentBytes s.toList))

end QuotationPress.Text
