import QuotationPress.Number.Binary64

/-!
# Texts of floating point numbers

A `FloatLayout` says how the digits `k · 10 ^ p` of a value are set out; `Binary64.text` is the
layout of values in data and `Binary64.lengthText` that of page lengths.
-/

namespace QuotationPress

/-- Positional notation is used while the exponent of the leading digit is at least `least` and
below `bound`; `keepPoint` adds `.0` to a whole number in positional notation. -/
structure FloatLayout where
  least : Int
  bound : Int
  keepPoint : Bool

namespace FloatLayout

def exponentText (e : Int) : List Char :=
  'e' :: (if e < 0 then '-' else '+') :: padded 2 e.natAbs

/-- `ds` are the digits of a number whose leading digit has the exponent `top`. -/
def digitsText (f : FloatLayout) (ds : List Char) (top : Int) : List Char :=
  if f.least ≤ top && top < f.bound then
    if top < 0 then '0' :: '.' :: List.replicate (top.natAbs - 1) '0' ++ ds
    else
      let before := top.toNat + 1
      if ds.length ≤ before then
        ds ++ List.replicate (before - ds.length) '0' ++ (if f.keepPoint then ['.', '0'] else [])
      else ds.take before ++ '.' :: ds.drop before
  else
    ds.take 1 ++ (if 1 < ds.length then '.' :: ds.drop 1 else []) ++ exponentText top

end FloatLayout

namespace Binary64

/-- Values in data: positional from `0.0001` to below `10 ^ 16`, with a point always. -/
def dataLayout : FloatLayout := ⟨-4, 16, true⟩

/-- Page lengths: six significant digits, positional below a million, no needless point. -/
def lengthLayout : FloatLayout := ⟨-4, 6, false⟩

def signText (x : Binary64) : List Char := if x.negative then ['-'] else []

def textWith (f : FloatLayout) (digits : Binary64 → Nat × Int) (x : Binary64) : List Char :=
  if x.isNan then "nan".toList
  else if !x.isFinite then x.signText ++ "inf".toList
  else if x.isZero then x.signText ++ '0' :: (if f.keepPoint then ['.', '0'] else [])
  else
    let (k, p) := digits x
    let ds := numeral k
    x.signText ++ f.digitsText ds (p + ds.length - 1)

/-- The fewest digits that read back as the value. -/
def text (x : Binary64) : List Char := textWith dataLayout shortest x

/-- A page length: at most six significant digits, no zeros after the last one. -/
def lengthText (x : Binary64) : List Char :=
  textWith lengthLayout (fun x =>
    let (k, p) := x.significantDigits 6
    dropZeros 6 k p) x
where
  dropZeros : Nat → Nat → Int → Nat × Int
    | 0, k, p => (k, p)
    | n + 1, k, p => if k % 10 = 0 && k != 0 then dropZeros n (k / 10) (p + 1) else (k, p)

/-- The decimal that `text` spells: its digits, and the scale of the notation used. -/
def toDecimal (x : Binary64) : Decimal :=
  if x.isNan then .nan false false 0
  else if !x.isFinite then .infinity x.negative
  else if x.isZero then .finite x.negative 0 (-1)
  else
    let (k, p) := x.shortest
    let top := p + digitCount k - 1
    if 0 ≤ p && dataLayout.least ≤ top && top < dataLayout.bound then
      .finite x.negative (k * Nat.pow 10 (p.toNat + 1)) (-1)
    else .finite x.negative k p

end Binary64

end QuotationPress
