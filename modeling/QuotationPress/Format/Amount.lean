import QuotationPress.Format.Plain
import QuotationPress.Number.Grouping

/-!
# Amounts of money and numbers

`Format.currency` rounds to a whole amount and groups its digits in lakhs and crores behind a
symbol; `Format.number` groups whole numbers and leaves others as they are; `Format.readAmount?`
reads the number out of a formatted amount.
-/

namespace QuotationPress.Format

/-- The decimal that a value stands for, commas in a text left out. -/
def decimalOf? : Value → Outcome (Option Decimal)
  | .int i => do
    let _ ← Value.intText i
    return some (Decimal.ofInt i)
  | .float x => .ok (some x.toDecimal)
  | .decimal d => .ok (some d)
  | .str s => .ok (Decimal.read? ((Text.trim s.toList).filter (· ≠ ',')))
  | _ => .ok none

def groupedText (n : Nat) : String := String.ofList (grouped (numeral n))

/-- A rounded amount: the sign, the symbol and the digits in groups. -/
def amountText (symbol : String) (negative : Bool) (n : Nat) : String :=
  (if negative && n ≠ 0 then "-" else "") ++ symbol ++ groupedText n

/-- What is no finite number keeps its text. -/
def currency (symbol : String) (amount : Value) : Outcome String :=
  if amount.isNull then .ok ""
  else do
    match ← decimalOf? amount with
    | some (.finite negative c e) =>
      match Decimal.roundedMagnitude? c e with
      | some n => return amountText symbol negative n
      | none => throw .amountTooLong
    | _ => amount.text

/-- The magnitude of a whole decimal, unless its numeral is too long. -/
def wholeMagnitude? (c : Nat) (e : Int) : Option Nat :=
  if c = 0 then some 0
  else if numeralLimit < e + digitCount c then none
  else if 0 ≤ e then some (c * Nat.pow 10 e.toNat)
  else some (c / Nat.pow 10 e.natAbs)

def number (v : Value) : Outcome String := do
  match ← decimalOf? v with
  | some (.finite negative c e) =>
    if Decimal.isWhole c e then
      match wholeMagnitude? c e with
      | some n => return (if negative && c ≠ 0 then "-" else "") ++ groupedText n
      | none => throw .numeralTooLong
    else return String.ofList (Decimal.finite negative c e).text
  | _ => plain v

/-- A sign, digits with at most one point among them, and nothing else. -/
def plainNumber? (cs : List Char) : Option Binary64 :=
  let (negative, body) := match cs with
    | '-' :: rest => (true, rest)
    | rest => (false, rest)
  let whole := body.takeWhile Text.isAsciiDigit
  let rest := body.dropWhile Text.isAsciiDigit
  let fraction? := match rest with
    | [] => some []
    | '.' :: more => if more.all Text.isAsciiDigit then some more else none
    | _ => none
  fraction?.bind fun fraction =>
    if whole.isEmpty && fraction.isEmpty then none
    else some
      (Binary64.ofScaled negative (numeralValue (whole ++ fraction)) (-(fraction.length : Int)))

/-- What of an amount belongs to its number: digits of any script, the point and the minus sign. -/
def isAmountChar (c : Char) : Bool := Text.isDecimal c || c == '.' || c == '-'

/-- The number that a text spells when currency symbols, commas and all else are left out. -/
def readAmountText? (cs : List Char) : Option Binary64 :=
  plainNumber? ((cs.filter isAmountChar).map Text.asciiDigit)

def readAmount? : Value → Outcome (Option Binary64)
  | .null => .ok none
  | .bool _ => .ok none
  | .int i =>
    let x := Binary64.ofInt i
    if x.isFinite then .ok (some x) else .error .numberTooLarge
  | .float x => .ok (some x)
  | .decimal (.nan _ true _) => .error .signalingNan
  | .decimal d => .ok (some (Binary64.ofDecimal d))
  | v => do return readAmountText? (← v.text).toList

/-- Whether a value reads as an amount above zero. -/
def isPositiveAmount (v : Value) : Outcome Bool := do
  match ← readAmount? v with
  | some x => return x.isPositive
  | none => return false

end QuotationPress.Format
