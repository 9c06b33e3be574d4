/-!
# Decimal numerals of natural numbers

`numeral` writes a number without leading zeros, `numeralValue` reads a run of ASCII digits,
`digitCount` is the length of the numeral, and `padded` fills a numeral with zeros on the left.
-/

namespace QuotationPress

def numeral (n : Nat) : List Char := Nat.toDigits 10 n

def numeralValue (cs : List Char) : Nat :=
  cs.foldl (fun acc c => acc * 10 + (c.toNat - '0'.toNat)) 0

def digitCount (n : Nat) : Nat := (numeral n).length

def padded (width n : Nat) : List Char :=
  List.replicate (width - digitCount n) '0' ++ numeral n

def intNumeral (i : Int) : List Char :=
  if i < 0 then '-' :: numeral i.natAbs else numeral i.natAbs

/-- The longest numeral that is written or read: a longer one is refused. -/
def numeralLimit : Nat := 4300

/-- What a whole number of 64 bits with a sign stays below: `2 ^ 63`. -/
def wordLimit : Nat := 0x8000000000000000

@[simp] theorem numeralValue_nil : numeralValue [] = 0 := rfl

theorem numeralValue_append_singleton (cs : List Char) (c : Char) :
    numeralValue (cs ++ [c]) = numeralValue cs * 10 + (c.toNat - '0'.toNat) := by
  simp [numeralValue, List.foldl_append]

end QuotationPress
