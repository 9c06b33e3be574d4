import QuotationPress.Number.RealNumeral
import QuotationPress.Text.Base64
import QuotationPress.Yaml.Stamp

/-!
# The values of single texts in data files

`scalarValue` gives the value of a text that is meant to be null, a flag, a number, a moment, bytes
or a text.
-/

namespace QuotationPress.Yaml

open Text (isAsciiDigit)

/-! ### Whole numbers -/

/-- The letter that may announce a base, behind a zero. -/
def baseLetter (base : Nat) : Char := if base = 2 then 'b' else if base = 8 then 'o' else 'x'

/-- Drops the announcement of a base that is no ten. -/
def withoutBaseMark (base : Nat) : List Char → List Char
  | '0' :: c :: rest =>
    if base ≠ 10 && Text.asciiLowerChar c = baseLetter base then rest else '0' :: c :: rest
  | cs => cs

/-- The value of digits in a base of at most sixteen. -/
def valueInBase? (base : Nat) (ds : List Char) : Option Nat :=
  if ds.isEmpty then none
  else ds.foldl (fun n c => do
    let d ← Text.hexValue? c
    if d < base then return (← n) * base + d else none) (some 0)

/-- A whole number in a base: blanks around it, a sign, and digits of any script. -/
def wholeInBase (base : Nat) (cs : List Char) : Outcome Int :=
  let plain := (Text.trim cs).map Text.asciiDigit
  let (negative, body) := Binary64.signed plain
  let ds := withoutBaseMark base body
  match valueInBase? base ds with
  | none => .error (.unreadableWhole base (String.ofList cs))
  | some n =>
    if base = 10 && numeralLimit < ds.length then .error (.numeralTooLongToRead ds.length)
    else .ok (if negative then -(n : Int) else n)

/-- Parts between colons, each worth sixty of the next. -/
def wholeInSixties (parts : List (List Char)) : Outcome Int := do
  let ns ← parts.mapM (wholeInBase 10)
  return ns.foldl (fun n d => n * 60 + d) 0

/-- Low lines do not count. -/
def wholeOf (cs : List Char) : Outcome Int := do
  let plain := withoutLines cs
  if (withoutSign plain).isEmpty then throw .emptyNumeral
  else
    let n ← match withoutSign plain with
      | '0' :: 'b' :: ds => wholeInBase 2 ds
      | '0' :: 'x' :: ds => wholeInBase 16 ds
      | '0' :: ds => wholeInBase 8 ('0' :: ds)
      | body =>
        if body.contains ':' then wholeInSixties (Text.splitChars ':' body) else wholeInBase 10 body
    return if plain.head? = some '-' then -n else n

/-! ### Floating point numbers -/

def plainReal (cs : List Char) : Outcome Binary64 :=
  match Binary64.read? ((Text.trim cs).map Text.asciiDigit) with
  | some x => .ok x
  | none => .error (.unreadableReal (String.ofList cs))

/-- Adds up parts, the last one first; every step is rounded. -/
def sumInSixties : List Binary64 → Nat → Binary64 → Outcome Binary64
  | [], _, sum => .ok sum
  | x :: rest, worth, sum =>
    let factor := Binary64.ofInt worth
    if !factor.isFinite then .error .numberTooLarge
    else sumInSixties rest (worth * 60) (sum.add (x.mul factor))

def realInSixties (parts : List (List Char)) : Outcome Binary64 := do
  sumInSixties (← parts.mapM plainReal).reverse 1 (Binary64.zero false)

/-- Low lines do not count, nor does the case of letters. -/
def realOf (cs : List Char) : Outcome Binary64 := do
  let plain := Text.lower (withoutLines cs)
  let negative := plain.head? = some '-'
  let body := withoutSign plain
  if plain.isEmpty then throw .emptyNumeral
  else if body = ".inf".toList then return Binary64.infinity negative
  else if body = ".nan".toList then return Binary64.nan
  else
    let x ←
      if body.contains ':' then realInSixties (Text.splitChars ':' body) else plainReal body
    return if negative && !x.isNan then x.neg else x

/-! ### All texts -/

def flagOf (s : String) : Outcome Bool :=
  let word := Text.toLower s
  if word = "yes" || word = "true" || word = "on" then .ok true
  else if word = "no" || word = "false" || word = "off" then .ok false
  else .error (.missingEntry word)

/-- The value of a text under its tag. -/
def scalarValue (tag : Tag) (s : String) : Outcome Value :=
  match tag with
  | .null => .ok .null
  | .flag => (flagOf s).map Value.bool
  | .whole => (wholeOf s.toList).map Value.int
  | .real => (realOf s.toList).map Value.float
  | .stamp =>
    match Stamp.read? (Text.withoutFinalBreak s.toList) with
    | some stamp => stamp.value
    | none => .error .unreadableMoment
  | .bytes =>
    match Text.unbase64? s.toList with
    | some bs => .ok (.bytes bs)
    | none => .error (.unreadableFile .unfitTag)
  | _ => .ok (.str s)

end QuotationPress.Yaml
