import QuotationPress.Calendar.Moment
import QuotationPress.Value.Text
import QuotationPress.Yaml.Tag

/-!
# Days and moments in data files

A stamp is a day alone, or a day, a time and perhaps an offset. `Stamp.read?` takes a text apart,
and `Stamp.value` is the day or the moment, if there is one.
-/

namespace QuotationPress.Yaml

open Text (isAsciiDigit)

/-- An offset: its sign, hours and minutes. -/
structure StampOffset where
  negative : Bool
  hours : Nat
  minutes : Nat

structure StampClock where
  hour : Nat
  minute : Nat
  second : Nat
  micro : Nat
  offset : Option StampOffset

structure Stamp where
  year : Nat
  month : Nat
  day : Nat
  clock : Option StampClock

namespace Stamp

/-! ### Reading -/

/-- One or two digits at the front. -/
def shortNumber? : List Char → Option (Nat × List Char)
  | a :: b :: rest =>
    if !isAsciiDigit a then none
    else if isAsciiDigit b then some (numeralValue [a, b], rest)
    else some (numeralValue [a], b :: rest)
  | [a] => if isAsciiDigit a then some (numeralValue [a], []) else none
  | [] => none

/-- As many digits as `count` at the front. -/
def digits? (count : Nat) (cs : List Char) : Option (Nat × List Char) :=
  let ds := cs.take count
  if ds.length = count && ds.all isAsciiDigit then some (numeralValue ds, cs.drop count) else none

def mark? (c : Char) : List Char → Option (List Char)
  | d :: rest => if c = d then some rest else none
  | [] => none

def isGap (c : Char) : Bool := c == ' ' || c == '\t'

/-- The hours of an offset, and minutes if there are any. -/
def offsetOf? (negative : Bool) (cs : List Char) : Option StampOffset := do
  let (hours, rest) ← shortNumber? cs
  if rest.isEmpty then return ⟨negative, hours, 0⟩
  else
    let (minutes, rest) ← digits? 2 (← mark? ':' rest)
    if rest.isEmpty then return ⟨negative, hours, minutes⟩ else none

/-- What stands behind the seconds: nothing, or the letter Z, or an offset. -/
def offset? (cs : List Char) : Option (Option StampOffset) :=
  if cs.isEmpty then some none
  else match cs.dropWhile isGap with
    | ['Z'] => some (some ⟨false, 0, 0⟩)
    | '-' :: rest => (offsetOf? true rest).map some
    | '+' :: rest => (offsetOf? false rest).map some
    | _ => none

/-- A point, and digits of which six count. -/
def fraction (cs : List Char) : Nat × List Char :=
  match cs with
  | '.' :: more =>
    let kept := (more.takeWhile isAsciiDigit).take 6
    (numeralValue kept * Nat.pow 10 (6 - kept.length), more.dropWhile isAsciiDigit)
  | _ => (0, cs)

def clock? (cs : List Char) : Option StampClock := do
  let (hour, rest) ← shortNumber? cs
  let (minute, rest) ← digits? 2 (← mark? ':' rest)
  let (second, rest) ← digits? 2 (← mark? ':' rest)
  let (micro, rest) := fraction rest
  return ⟨hour, minute, second, micro, ← offset? rest⟩

/-- The letter T or blanks stand between day and time. -/
def timeMark? : List Char → Option (List Char)
  | 'T' :: rest => some rest
  | 't' :: rest => some rest
  | c :: rest => if isGap c then some (rest.dropWhile isGap) else none
  | [] => none

def read? (cs : List Char) : Option Stamp := do
  let (year, rest) ← digits? 4 cs
  let (month, rest) ← shortNumber? (← mark? '-' rest)
  let (day, rest) ← shortNumber? (← mark? '-' rest)
  if rest.isEmpty then return ⟨year, month, day, none⟩
  else return ⟨year, month, day, some (← clock? (← timeMark? rest))⟩

/-- A word that stands for a day has two digits for month and day each. -/
def isWord (cs : List Char) : Bool :=
  match read? cs with
  | some s => s.clock.isSome || cs.length = 10
  | none => false

/-! ### Values -/

def dayOf (s : Stamp) : Outcome Date :=
  match Date.of? s.year s.month s.day with
  | some d => .ok d
  | none =>
    .error (.noSuchMoment
      (if s.year = 0 then "year 0 is out of range"
      else if s.month = 0 || 12 < s.month then "month must be in 1..12"
      else "day is out of range for month"))

end Stamp

/-- An offset in microseconds. It has to be less than a day. -/
def StampOffset.micros (o : StampOffset) : Outcome Int :=
  let seconds : Int := ((o.hours * 60 + o.minutes) * 60 : Nat)
  let micros := Moment.offsetOfSeconds (if o.negative then -seconds else seconds)
  if Moment.isOffset micros then .ok micros
  else .error (.noSuchMoment
    ("offset must be a timedelta strictly between -timedelta(hours=24) and "
      ++ "timedelta(hours=24), not " ++ Value.differenceText micros ++ "."))

/-- The offset is looked at first, then the day, then the time. -/
def Stamp.momentOf (s : Stamp) (c : StampClock) : Outcome Moment := do
  let offset ← c.offset.mapM StampOffset.micros
  let date ← s.dayOf
  if 24 ≤ c.hour then throw (.noSuchMoment "hour must be in 0..23")
  if 60 ≤ c.minute then throw (.noSuchMoment "minute must be in 0..59")
  if 60 ≤ c.second then throw (.noSuchMoment "second must be in 0..59")
  return ⟨date, c.hour, c.minute, c.second, c.micro, offset⟩

def Stamp.value (s : Stamp) : Outcome Value :=
  match s.clock with
  | none => s.dayOf.map Value.date
  | some c => (s.momentOf c).map Value.moment

/-! ### Words again -/

/-- The values that words have by their first characters. -/
def Tag.ofWord (s : String) : Tag :=
  let cs := Text.withoutFinalBreak s.toList
  let word := String.ofList cs
  if s = "" then null
  else if trueWords.contains word || falseWords.contains word then flag
  else if isRealWord cs then real
  else if isWholeWord cs then whole
  else if word = "<<" then merge
  else if word ≠ "" && nullWords.contains word then null
  else if Stamp.isWord cs then stamp
  else if word = "=" then standIn
  else text

end QuotationPress.Yaml
