import QuotationPress.Number.Decimal

/-!
# Binary floating point numbers of 64 bits

A number is data: sign, exponent field and fraction field, so that every value is one bit pattern
and arithmetic is exact arithmetic followed by one rounding. `Binary64.ofRatio` rounds a ratio to
the nearest value, a tie to the even one; `Binary64.shortest` finds the fewest decimal digits that
read back as the value.
-/

namespace QuotationPress

/-- How many values share a sign and an exponent: `2 ^ 52`. -/
abbrev fractionCount : Nat := 0x10000000000000

structure Binary64 where
  negative : Bool
  exponent : Fin 2048
  fraction : Fin fractionCount
  deriving Repr, DecidableEq

namespace Binary64

instance : Inhabited Binary64 := ⟨⟨false, 0, 0⟩⟩

def zero (negative : Bool) : Binary64 := ⟨negative, 0, 0⟩

def infinity (negative : Bool) : Binary64 := ⟨negative, 2047, 0⟩

def nan : Binary64 := ⟨false, 2047, Fin.ofNat fractionCount (fractionCount / 2)⟩

def isFinite (x : Binary64) : Bool := x.exponent.val != 2047

def isNan (x : Binary64) : Bool := !x.isFinite && x.fraction.val != 0

/-- The significand `m` and the power `q` of a finite value, which stands for `± m · 2 ^ q`. -/
def significand (x : Binary64) : Nat :=
  if x.exponent.val = 0 then x.fraction.val else fractionCount + x.fraction.val

def power (x : Binary64) : Int := if x.exponent.val = 0 then -1074 else x.exponent.val - 1075

def isZero (x : Binary64) : Bool := x.exponent.val == 0 && x.fraction.val == 0

def isPositive (x : Binary64) : Bool := !x.negative && !x.isZero && !x.isNan

def neg (x : Binary64) : Binary64 := { x with negative := !x.negative }

/-! ### Rounding to the nearest value -/

/-- The quotient `n / d` rounded, a tie to the even neighbour. -/
def halfEven (n d : Nat) : Nat :=
  let q := n / d
  let r := n % d
  if 2 * r < d then q else if d < 2 * r then q + 1 else if q % 2 = 0 then q else q + 1

/-- The ratio `n / d · 2 ^ -q` as numerator and denominator. -/
def scaleDown (n d : Nat) (q : Int) : Nat × Nat :=
  if 0 ≤ q then (n, d * Nat.pow 2 q.toNat) else (n * Nat.pow 2 q.natAbs, d)

/-- The exponent of the leading binary digit of `n / d`, both positive. -/
def leadingBit (n d : Nat) : Int :=
  let k : Int := (Nat.log2 n : Int) - Nat.log2 d
  let s := scaleDown n d k
  if s.2 ≤ s.1 then k else k - 1

/-- The value with significand `m ≤ 2 ^ 53` and power `q`, where `q = -1074` when `m < 2 ^ 52`. -/
def pack (negative : Bool) (m : Nat) (q : Int) : Binary64 :=
  if m < fractionCount then ⟨negative, 0, Fin.ofNat fractionCount m⟩
  else
    let (m, q) := if m = 2 * fractionCount then (fractionCount, q + 1) else (m, q)
    if 971 < q then infinity negative
    else ⟨negative, Fin.ofNat 2048 (q + 1075).toNat, Fin.ofNat fractionCount (m - fractionCount)⟩

/-- The value nearest to `± n / d`, `d` positive; beyond the greatest finite value, infinity. -/
def ofRatio (negative : Bool) (n d : Nat) : Binary64 :=
  if n = 0 then zero negative
  else
    let q := max (leadingBit n d - 52) (-1074)
    let s := scaleDown n d q
    pack negative (halfEven s.1 s.2) q

/-- The value nearest to `± c · 10 ^ e`. -/
def ofScaled (negative : Bool) (c : Nat) (e : Int) : Binary64 :=
  if c = 0 then zero negative
  else if 310 < e + digitCount c then infinity negative
  else if e + digitCount c < -330 then zero negative
  else if 0 ≤ e then ofRatio negative (c * Nat.pow 10 e.toNat) 1
  else ofRatio negative c (Nat.pow 10 e.natAbs)

def ofInt (i : Int) : Binary64 := ofRatio (i < 0) i.natAbs 1

/-- The value nearest to a decimal. -/
def ofDecimal : Decimal → Binary64
  | .finite n c e => ofScaled n c e
  | .infinity n => infinity n
  | .nan n _ _ => if n then nan.neg else nan

/-! ### Arithmetic and whole numbers -/

def mul (x y : Binary64) : Binary64 :=
  let sign := x.negative != y.negative
  if x.isNan || y.isNan then nan
  else if !x.isFinite || !y.isFinite then
    (if x.isZero || y.isZero then nan else infinity sign)
  else
    let q := x.power + y.power
    let m := x.significand * y.significand
    if 0 ≤ q then ofRatio sign (m * Nat.pow 2 q.toNat) 1 else ofRatio sign m (Nat.pow 2 q.natAbs)

/-- The whole number that a finite value stands for, if it stands for one. -/
def whole? (x : Binary64) : Option Int :=
  if !x.isFinite then none
  else
    let m := x.significand
    let magnitude? :=
      if 0 ≤ x.power then some (m * Nat.pow 2 x.power.toNat)
      else if m % Nat.pow 2 x.power.natAbs = 0 then some (m / Nat.pow 2 x.power.natAbs)
      else none
    magnitude?.map fun n => if x.negative then -(n : Int) else n

/-- The magnitude of a finite value as a ratio. -/
def ratio (x : Binary64) : Nat × Nat :=
  if 0 ≤ x.power then (x.significand * Nat.pow 2 x.power.toNat, 1)
  else (x.significand, Nat.pow 2 x.power.natAbs)

/-- A finite value as a ratio with a sign. -/
def signedRatio (x : Binary64) : Int × Nat :=
  let r := x.ratio
  (if x.negative then -(r.1 : Int) else r.1, r.2)

/-- The value nearest to `n / d`, `d` positive. -/
def ofSignedRatio (n : Int) (d : Nat) : Binary64 := ofRatio (n < 0) n.natAbs d

def add (x y : Binary64) : Binary64 :=
  if x.isNan || y.isNan then nan
  else if !x.isFinite then (if y.isFinite || x.negative = y.negative then x else nan)
  else if !y.isFinite then y
  else
    let a := x.signedRatio
    let b := y.signedRatio
    let n := a.1 * b.2 + b.1 * a.2
    if n = 0 then zero (x.negative && y.negative) else ofSignedRatio n (a.2 * b.2)

def sub (x y : Binary64) : Binary64 := add x y.neg

/-- A quotient by a positive whole number. -/
def divNat (x : Binary64) (d : Nat) : Binary64 :=
  if x.isFinite then ofRatio x.negative x.ratio.1 (x.ratio.2 * d) else x

/-- The greatest whole number that is not above a finite value. -/
def floor (x : Binary64) : Int := Int.fdiv x.signedRatio.1 x.signedRatio.2

/-! ### Decimal digits -/

/-- The exponent of the leading decimal digit of `n / d`, a ratio above `10 ^ -400`. -/
def leadingDigit (n d : Nat) : Int := (digitCount (n * Nat.pow 10 400 / d) : Int) - 401

/-- The ratio `n / d · 10 ^ -p` as numerator and denominator. -/
def scaleDownTen (n d : Nat) (p : Int) : Nat × Nat :=
  if 0 ≤ p then (n, d * Nat.pow 10 p.toNat) else (n * Nat.pow 10 p.natAbs, d)

/-- Whether `k · 10 ^ p` lies in the interval of numbers that round to `m · 2 ^ q`. The ends belong
to it when `m` is even; below a power of two the interval is half as wide. -/
def readsBack (x : Binary64) (k : Nat) (p : Int) : Bool :=
  let m := x.significand
  let q := x.power
  let below := if x.fraction.val = 0 && 1 < x.exponent.val then 1 else 2
  let lowEnd := 4 * m - below
  let highEnd := 4 * m + 2
  let scaled := scaleDown (if 0 ≤ p then k * Nat.pow 10 p.toNat else k)
    (if 0 ≤ p then 1 else Nat.pow 10 p.natAbs) (q - 2)
  if m % 2 = 0 then lowEnd * scaled.2 ≤ scaled.1 && scaled.1 ≤ highEnd * scaled.2
  else lowEnd * scaled.2 < scaled.1 && scaled.1 < highEnd * scaled.2

/-- The neighbour of the value on the grid `10 ^ p` that reads back, the nearer one of two. -/
def gridHit? (x : Binary64) (p : Int) : Option Nat :=
  let r := x.ratio
  let s := scaleDownTen r.1 r.2 p
  let low := s.1 / s.2
  let rest := s.1 % s.2
  match x.readsBack low p && low != 0, x.readsBack (low + 1) p with
  | true, true => some (if 2 * rest < s.2 then low else if s.2 < 2 * rest then low + 1
      else if low % 2 = 0 then low else low + 1)
  | true, false => some low
  | false, true => some (low + 1)
  | false, false => none

/-- `k` and `p` of the shortest `k · 10 ^ p` that reads back: the first of the grids of one, two, …
seventeen digits with a hit. -/
def shortest (x : Binary64) : Nat × Int :=
  let r := x.ratio
  let top := leadingDigit r.1 r.2
  match (List.range 17).findSome? fun (i : Nat) =>
      let p := top - (i : Nat)
      (x.gridHit? p).map fun k => (k, p) with
  | some (k, p) => if k % 10 = 0 then (k / 10, p + 1) else (k, p)
  | none => (0, 0)

/-- `k` and `p` of the value rounded to `places` significant digits, a tie to the even one. -/
def significantDigits (x : Binary64) (places : Nat) : Nat × Int :=
  let r := x.ratio
  let p := leadingDigit r.1 r.2 - (places - 1 : Nat)
  let s := scaleDownTen r.1 r.2 p
  let k := halfEven s.1 s.2
  if k = Nat.pow 10 places then (Nat.pow 10 (places - 1), p + 1) else (k, p)

end Binary64

end QuotationPress
