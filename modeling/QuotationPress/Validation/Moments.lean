import QuotationPress.Calendar.Iso
import QuotationPress.Validation.Lenient

/-!
# Lenient reading of points in time

`Lenient.moment` takes moments, dates, texts such as `2026-01-02 10:30:00Z` or `2026-01-02`, and
counts of seconds or milliseconds since 1970, which may have a fraction.
-/

namespace QuotationPress.Lenient

open Text (isAsciiDigit)
open Iso (digits? byteLength)

/-! ### Days and times in texts -/

/-- A day as it is written: the notation knows a year 0, which no `Date` has. -/
structure WrittenDay where
  year : Nat
  month : Nat
  day : Nat

/-- The day of a text that begins with year, month and day, or what is wrong with it. -/
def dayAtFront (cs : List Char) : Except String WrittenDay :=
  if byteLength cs < 10 then .error "input is too short"
  else if !(cs.take 4).all isAsciiDigit then .error "invalid character in year"
  else if cs.getD 4 ' ' ≠ '-' then .error "invalid date separator, expected `-`"
  else if !((cs.drop 5).take 2).all isAsciiDigit then .error "invalid character in month"
  else if cs.getD 7 ' ' ≠ '-' then .error "invalid date separator, expected `-`"
  else if !((cs.drop 8).take 2).all isAsciiDigit then .error "invalid character in day"
  else
    let year := numeralValue (cs.take 4)
    let month := numeralValue ((cs.drop 5).take 2)
    let day := numeralValue ((cs.drop 8).take 2)
    if month = 0 || 12 < month then .error "month value is outside expected range of 1-12"
    else if day = 0 || daysInMonth year month < day
      then .error "day value is outside expected range"
    else .ok ⟨year, month, day⟩

/-- The point in time on a written day that `onDate` makes. -/
def WrittenDay.moment (d : WrittenDay) (onDate : Date → Moment) : Checked Moment :=
  match Date.of? d.year d.month d.day with
  | some date => .good (onDate date)
  | none => .fault (.impossibleMoment "year 0 is out of range")

/-- The beginning of a day that is the whole text. -/
def dayText (cs : List Char) : Checked Moment :=
  match dayAtFront cs with
  | .ok d =>
    if cs.length = 10 then d.moment Moment.atMidnight
    else .fault (.unreadableMoment "unexpected extra characters at the end of the input")
  | .error e => .fault (.unreadableMoment e)

/-- The signs of an offset; a true minus counts too. -/
def offsetSign? (c : Char) : Option Int :=
  if c == '+' then some 1 else if c == '-' || c.toNat = 0x2212 then some (-1) else none

/-- An offset at the end of a text: nothing, the letter Z, or a sign, hours and minutes. -/
def offset? : List Char → Option (Option Int)
  | [] => some none
  | c :: rest =>
    if c == 'Z' || c == 'z' then (if rest.isEmpty then some (some 0) else none)
    else do
      let sign ← offsetSign? c
      let (hours, rest) ← digits? 2 rest
      let (minutes, rest) ← digits? 2 (match rest with | ':' :: more => more | more => more)
      let micros := Moment.offsetOfSeconds (sign * (hours * 3600 + minutes * 60))
      if rest.isEmpty && minutes < 60 && Moment.isOffset micros then some (some micros) else none

/-- A point or a comma and digits, of which six count. -/
def fraction? : List Char → Option (Nat × List Char)
  | [] => some (0, [])
  | c :: rest =>
    if c == '.' || c == ',' then
      let ds := rest.takeWhile isAsciiDigit
      let kept := ds.take 6
      if ds.isEmpty then none
      else some (numeralValue kept * Nat.pow 10 (6 - kept.length), rest.dropWhile isAsciiDigit)
    else some (0, c :: rest)

/-- The moments of a text that begins with hours and minutes, one on each day. -/
def timeOf? (cs : List Char) : Option (Date → Moment) := do
  let (hour, rest) ← digits? 2 cs
  let rest ← match rest with | ':' :: more => some more | _ => none
  let (minute, rest) ← digits? 2 rest
  let (second, micro, rest) ← match rest with
    | ':' :: more => do
      let (second, rest) ← digits? 2 more
      let (micro, rest) ← fraction? rest
      pure (second, micro, rest)
    | rest => pure (0, 0, rest)
  let offset ← offset? rest
  if hour < 24 && minute < 60 && second < 60 then
    some fun date => ⟨date, hour, minute, second, micro, offset⟩
  else none

def isTimeMark (c : Char) : Bool := c == 'T' || c == 't' || c == ' ' || c == '_'

/-- A day, a mark and a time. -/
def momentText? (cs : List Char) : Option (Checked Moment) :=
  match dayAtFront cs, cs.drop 10 with
  | .ok d, mark :: rest => if isTimeMark mark then (timeOf? rest).map d.moment else none
  | _, _ => none

/-! ### Counts of seconds -/

/-- A count of seconds or milliseconds since 1970. -/
inductive Count where
  | whole (n : Int)
  | real (x : Binary64)

namespace Count

/-- Beyond this magnitude a count is one of milliseconds. -/
def milliBound : Int := 20000000000

def ofWhole (n : Int) : Int × Nat :=
  if milliBound < n.natAbs then (Int.fdiv n 1000, (Int.fmod n 1000).toNat * 1000) else (n, 0)

/-- The microseconds of a count with a fraction are rounded, a half away from zero. -/
def ofReal (x : Binary64) : Int × Nat :=
  let n := x.signedRatio
  let x := if milliBound * n.2 < n.1.natAbs then x.divNat 1000 else x
  let seconds := x.floor
  let rest := ((x.sub (Binary64.ofInt seconds)).mul (Binary64.ofInt 1000000)).ratio
  let micros := Decimal.halfUp rest.1 rest.2
  (seconds + (micros / 1000000 : Nat), micros % 1000000)

/-- Whole seconds since 1970 and microseconds, or what is wrong with the count. -/
def parts : Count → Except String (Int × Nat)
  | whole n => .ok (ofWhole n)
  | real x =>
    if x.isNan then .error "NaN values not permitted"
    else if !x.isFinite then .error (if x.negative then tooEarly else tooLate)
    else .ok (ofReal x)
where
  tooEarly := "dates before 0000 are not supported as unix timestamps"
  tooLate := "dates after 9999 are not supported as unix timestamps"

/-- The days from the first of January of year 1 to 1970, and the length of a year 0. -/
def epoch : Int := 719163

def yearZero : Int := 366

/-- The point in time in universal time; years 0 to 9999 can be counted to. -/
def moment (c : Count) : Except String (Checked Moment) :=
  match c.parts with
  | .error e => .error e
  | .ok (seconds, micro) =>
    let ordinal := Int.fdiv seconds 86400 + epoch
    let rest := (Int.fmod seconds 86400).toNat
    if ordinal ≤ -yearZero then .error parts.tooEarly
    else if ordinal < 1 then .ok (.fault (.impossibleMoment "year 0 is out of range"))
    else match Date.ofOrdinal? ordinal.toNat with
      | some d => .ok (.good ⟨d, rest / 3600, rest / 60 % 60, rest % 60, micro, some 0⟩)
      | none => .error parts.tooLate

/-- The point in time that a number counts to. -/
def checked (c : Count) : Checked Moment :=
  match c.moment with
  | .ok m => m
  | .error e => .fault (.impossibleMoment e)

end Count

/-- The value of digits and of digits after a point, summed up one decimal place after the other. -/
def placeSum (whole : Nat) (fraction : List Char) : Binary64 :=
  (fraction.foldl (fun (sum, place) c =>
    (sum.add ((Binary64.ofInt (numeralValue [c])).divNat place), place * 10))
    (Binary64.ofInt whole, 10)).1

/-- A text of digits, perhaps with a point among them and a sign before them. -/
def count? (cs : List Char) : Option Count :=
  let (negative, body) := Binary64.signed cs
  let whole := body.takeWhile isAsciiDigit
  let n := numeralValue whole
  if body.isEmpty || wordLimit ≤ n then none
  else match body.dropWhile isAsciiDigit with
    | [] => some (.whole (if negative then -n else n))
    | '.' :: fraction =>
      let x := placeSum n fraction
      if fraction.all isAsciiDigit then some (.real (if negative then x.neg else x)) else none
    | _ => none

/-! ### Values -/

def momentOfText (cs : List Char) : Checked Moment :=
  match momentText? cs, count? cs with
  | some m, _ => m
  | none, some c => match c, c.moment with
    | _, .ok m => m
    | .whole _, .error e => .fault (.unreadableMoment e)
    | .real _, .error _ => dayText cs
  | none, none => dayText cs

def moment : Value → Checked Moment
  | .moment m => .good m
  | .date d => .good (Moment.atMidnight d)
  | .str s => momentOfText s.toList
  | .int n => if isWord n then (Count.whole n).checked else match floatOfInt? n with
    | some x => (Count.real x).checked
    | none => .fault .notMoment
  | .float x => (Count.real x).checked
  | .decimal (.nan _ true _) => .fault .notMoment
  | .decimal d => (Count.real (Binary64.ofDecimal d)).checked
  | _ => .fault .notMoment

end QuotationPress.Lenient
