/-!
# Blank characters of any script and trimming

`isBlank` is the class, `trim` drops blanks at both ends of a text and keeps those inside.
-/

namespace QuotationPress.Text

/-- The blank characters: controls that move the carriage, information separators, and every space
and line separator of the general punctuation blocks. The zero width space is not one of them. -/
def isBlank (c : Char) : Bool :=
  let n := c.toNat
  (0x9 ≤ n && n ≤ 0xD) || (0x1C ≤ n && n ≤ 0x20) || n == 0x85 || n == 0xA0 || n == 0x1680
    || (0x2000 ≤ n && n ≤ 0x200A) || n == 0x2028 || n == 0x2029 || n == 0x202F || n == 0x205F
    || n == 0x3000

def trimLeft (cs : List Char) : List Char := cs.dropWhile isBlank

def trimRight (cs : List Char) : List Char := (cs.reverse.dropWhile isBlank).reverse

def trim (cs : List Char) : List Char := trimRight (trimLeft cs)

def strip (s : String) : String := String.ofList (trim s.toList)

theorem isBlank_space : isBlank ' ' = true := by decide

@[simp] theorem trim_nil : trim [] = [] := rfl

end QuotationPress.Text
