import QuotationPress.Text.Hidden
import QuotationPress.Number.Numeral

/-!
# Quoted text, as messages and listings show it

`quoted` puts a text between single quotes, or double ones when it holds a single quote and no
double one, and spells out the backslash, the quote and every hidden character; `quotedBytes` does
so for bytes, of which only those of ASCII are shown.
-/

namespace QuotationPress.Text

/-- Lower case hexadecimal digits, filled with zeros to `width`. -/
def hexPadded (width n : Nat) : List Char :=
  let ds := Nat.toDigits 16 n
  List.replicate (width - ds.length) '0' ++ ds

def quoteMark (cs : List Char) : Char := if cs.contains '\'' && !cs.contains '"' then '"' else '\''

/-- A character between quote marks `mark`. -/
def quotedChar (mark c : Char) : List Char :=
  if c == '\\' || c == mark then ['\\', c]
  else if c == '\n' then ['\\', 'n']
  else if c == '\r' then ['\\', 'r']
  else if c == '\t' then ['\\', 't']
  else if isHidden c && c != ' ' then
    if c.toNat < 0x100 then '\\' :: 'x' :: hexPadded 2 c.toNat
    else if c.toNat < 0x10000 then '\\' :: 'u' :: hexPadded 4 c.toNat
    else '\\' :: 'U' :: hexPadded 8 c.toNat
  else [c]

def quotedChars (cs : List Char) : List Char :=
  let mark := quoteMark cs
  mark :: cs.flatMap (quotedChar mark) ++ [mark]

def quoted (s : String) : String := String.ofList (quotedChars s.toList)

/-- A byte between quote marks `mark`. -/
def quotedByte (mark : Char) (b : UInt8) : List Char :=
  if b.toNat < 128 then quotedChar mark (Char.ofNat b.toNat) else '\\' :: 'x' :: hexPadded 2 b.toNat

def quotedBytes (bytes : List UInt8) : String :=
  let mark := quoteMark (bytes.map fun b => Char.ofNat b.toNat)
  String.ofList ('b' :: mark :: bytes.flatMap (quotedByte mark) ++ [mark])

end QuotationPress.Text
