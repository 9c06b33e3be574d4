import QuotationPress.Number.Binary64
import QuotationPress.Text.Case

/-!
# Reading floating point numbers

`Binary64.read?` takes digits with at most one point among them and an exponent, or the words for
the values that are no numbers, a sign in front of either.
-/

namespace QuotationPress.Binary64

open Text (isAsciiDigit)

/-- The sign in front of a number, and the rest. -/
def signed : List Char → Bool × List Char
  | '-' :: rest => (true, rest)
  | '+' :: rest => (false, rest)
  | rest => (false, rest)

def scale? : List Char → Option Int
  | [] => some 0
  | e :: rest =>
    if e == 'e' || e == 'E' then
      let (negative, ds) := signed rest
      if ds.isEmpty || !ds.all isAsciiDigit then none
      else
        let n : Int := numeralValue ds
        some (if negative then -n else n)
    else none

/-- Digits with at most one point among them, and an exponent. -/
def readUnsigned? (negative : Bool) (cs : List Char) : Option Binary64 :=
  let whole := cs.takeWhile isAsciiDigit
  let rest := cs.dropWhile isAsciiDigit
  let (fraction, tail) := match rest with
    | '.' :: more => (more.takeWhile isAsciiDigit, more.dropWhile isAsciiDigit)
    | more => ([], more)
  if whole.isEmpty && fraction.isEmpty then none
  else (scale? tail).map fun e =>
    ofScaled negative (numeralValue (whole ++ fraction)) (e - fraction.length)

def read? (cs : List Char) : Option Binary64 :=
  let (negative, body) := signed cs
  let word := String.ofList (body.map Text.asciiLowerChar)
  if word == "inf" || word == "infinity" then some (infinity negative)
  else if word == "nan" then some nan
  else readUnsigned? negative body

end QuotationPress.Binary64
