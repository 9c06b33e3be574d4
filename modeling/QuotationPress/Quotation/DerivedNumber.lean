import QuotationPress.Number.Numeral
import QuotationPress.Text.Utf8

/-!
# Numbers for quotations that were never given one

`derivedNumber` makes a number of up to four digits from the checksum of the id, so that an id
always shows the same number.
-/

namespace QuotationPress

/-! ### The cyclic redundancy check of 32 bits -/

def Checksum.polynomial : Nat := 0xEDB88320

def Checksum.shift : Nat → Nat → Nat
  | 0, r => r
  | n + 1, r => shift n (if r % 2 = 1 then (r / 2) ^^^ polynomial else r / 2)

def checksum (bytes : List UInt8) : Nat :=
  bytes.foldl (fun r b => Checksum.shift 8 (r ^^^ b.toNat)) 0xFFFFFFFF ^^^ 0xFFFFFFFF

def derivedNumber (id : String) : String :=
  "ASP-Q-" ++ String.ofList (padded 3 (checksum (Text.utf8Bytes id) % 9999 + 1))

end QuotationPress
