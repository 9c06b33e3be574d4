/-!
# Character classes given by tables of code point ranges

`inRanges` is the membership test that the table modules of this folder share.
-/

namespace QuotationPress.Text

def inRanges (table : List (Nat × Nat)) (c : Char) : Bool :=
  table.any fun r => r.1 ≤ c.toNat && c.toNat ≤ r.2

end QuotationPress.Text
