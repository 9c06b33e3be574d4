import QuotationPress.Number.Numeral
import QuotationPress.Text.Digit
import QuotationPress.Text.Blank

/-!
# Decimal numbers with their scale

`1.5` and `1.50` are different values of the type that stand for one number. `Decimal.read?` reads a
text, `Decimal.text` writes a value back, `Decimal.rounded?` rounds to a whole number, halves away
from zero, and `Decimal.whole?` is the whole number that a value stands for, if it stands for one.
-/

namespace QuotationPress

/-- A finite decimal stands for `± coefficient · 10 ^ exponent`. -/
inductive Decimal where
  | finite (negative : Bool) (coefficient : Nat) (exponent : Int)
  | infinity (negative : Bool)
  | nan (negative signaling : Bool) (payload : Nat)
  deriving Repr, DecidableEq, Inhabited

namespace Decimal

/-- The most digits that a rounded whole number may have. -/
def precision : Nat := 28

def isFinite : Decimal → Bool
  | finite .. => true
  | _ => false

def isNan : Decimal → Bool
  | nan .. => true
  | _ => false

def isZero : Decimal → Bool
  | finite _ c _ => c == 0
  | _ => false

def ofInt (i : Int) : Decimal := finite (i < 0) i.natAbs 0

/-- Above zero: false of the values that are no numbers. -/
def isPositive : Decimal → Bool
  | finite n c _ => !n && c != 0
  | infinity n => !n
  | nan .. => false

/-! ### Rounding -/

/-- The quotient `n / d`, a half rounded up. -/
def halfUp (n d : Nat) : Nat := (2 * n + d) / (2 * d)

/-- Whether `coefficient · 10 ^ exponent` is a whole number. -/
def isWhole (c : Nat) (e : Int) : Bool :=
  c == 0 || 0 ≤ e || (e.natAbs < digitCount c && c % Nat.pow 10 e.natAbs == 0)

/-- The magnitude of the nearest whole number, a half away from zero. `none` when it needs more than
`precision` digits. -/
def roundedMagnitude? (c : Nat) (e : Int) : Option Nat :=
  if c = 0 then some 0
  else if 0 ≤ e then
    (if digitCount c + e.toNat ≤ precision then some (c * Nat.pow 10 e.toNat) else none)
  else if digitCount c < e.natAbs then some 0
  else
    let q := halfUp c (Nat.pow 10 e.natAbs)
    if digitCount q ≤ precision then some q else none

/-! ### Writing -/

/-- Plain digits when the exponent is not positive and at most six zeros follow the point, else one
digit before the point and an exponent. -/
def finiteText (negative : Bool) (c : Nat) (e : Int) : List Char :=
  let ds := numeral c
  let left : Int := e + ds.length
  let point : Int := if e ≤ 0 && left > -6 then left else 1
  let body :=
    if point ≤ 0 then '0' :: '.' :: List.replicate point.natAbs '0' ++ ds
    else if ds.length ≤ point.toNat then ds ++ List.replicate (point.toNat - ds.length) '0'
    else ds.take point.toNat ++ '.' :: ds.drop point.toNat
  let scale :=
    if left = point then []
    else 'E' :: (if left < point then '-' else '+') :: numeral (left - point).natAbs
  (if negative then ['-'] else []) ++ body ++ scale

def text : Decimal → List Char
  | finite n c e => finiteText n c e
  | infinity n => (if n then ['-'] else []) ++ "Infinity".toList
  | nan n s p =>
    (if n then ['-'] else []) ++ (if s then ['s'] else []) ++ "NaN".toList
      ++ (if p = 0 then [] else numeral p)

/-! ### Reading -/

/-- The greatest and the least exponent of a value that can be held exactly. -/
def greatestExponent : Int := 999999999999999999

def leastExponent : Int := -1999999999999999997

def hold? (negative : Bool) (c : Nat) (e : Int) : Option Decimal :=
  let top := if c = 0 then e else e + (digitCount c : Int) - 1
  if leastExponent ≤ e && top ≤ greatestExponent then some (finite negative c e) else none

/-- Lower case of the letters `A` to `Z`. -/
def foldLetter (c : Char) : Char :=
  if 'A' ≤ c && c ≤ 'Z' then Char.ofNat (c.toNat + 32) else c

/-- The exponent part of a number: nothing, or `e`, a sign and digits. -/
def readScale? : List Char → Option Int
  | [] => some 0
  | c :: rest =>
    if foldLetter c != 'e' then none
    else
      let (negative, ds) := match rest with
        | '-' :: ds => (true, ds)
        | '+' :: ds => (false, ds)
        | ds => (false, ds)
      if ds.isEmpty || !ds.all Text.isAsciiDigit then none
      else
        let n : Int := numeralValue ds
        some (if negative then -n else n)

/-- Digits with at most one point, and an exponent. -/
def readNumber? (negative : Bool) (cs : List Char) : Option Decimal :=
  let whole := cs.takeWhile Text.isAsciiDigit
  let rest := cs.dropWhile Text.isAsciiDigit
  let (fraction, scale) := match rest with
    | '.' :: more => (more.takeWhile Text.isAsciiDigit, more.dropWhile Text.isAsciiDigit)
    | more => ([], more)
  if whole.isEmpty && fraction.isEmpty then none
  else (readScale? scale).bind fun e =>
    hold? negative (numeralValue (whole ++ fraction)) (e - fraction.length)

def readUnsigned? (negative : Bool) (cs : List Char) : Option Decimal :=
  let folded := cs.map foldLetter
  if folded = "inf".toList || folded = "infinity".toList then some (infinity negative)
  else match folded with
    | 'n' :: 'a' :: 'n' :: ds =>
      if ds.all Text.isAsciiDigit then some (nan negative false (numeralValue ds)) else none
    | 's' :: 'n' :: 'a' :: 'n' :: ds =>
      if ds.all Text.isAsciiDigit then some (nan negative true (numeralValue ds)) else none
    | _ => readNumber? negative cs

/-- Blanks around the number are dropped, and so are low lines anywhere; digits of any script
count. -/
def read? (cs : List Char) : Option Decimal :=
  let plain := ((Text.trim cs).filter (· != '_')).map Text.asciiDigit
  match plain with
  | '-' :: rest => readUnsigned? true rest
  | '+' :: rest => readUnsigned? false rest
  | rest => readUnsigned? false rest

end Decimal

end QuotationPress
