import QuotationPress.Calendar.Moment
import QuotationPress.Text.Digit

/-!
# Reading ISO 8601 texts

`Iso.readDate?` takes calendar dates (`2026-10-19`, `20261019`) and week dates (`2026-W43-1`,
`2026W431`); `Iso.readMoment?` takes a date alone, or a date, one character of any kind, a time and
an offset.
-/

namespace QuotationPress.Iso

open Text (isAsciiDigit)

/-- Reads exactly `count` ASCII digits from the front. -/
def digits? (count : Nat) (cs : List Char) : Option (Nat × List Char) :=
  let ds := cs.take count
  if ds.length = count && ds.all isAsciiDigit then some (numeralValue ds, cs.drop count) else none

/-- The length of a text in bytes. -/
def byteLength (cs : List Char) : Nat := (cs.map Char.utf8Size).foldr (· + ·) 0

/-! ### Dates -/

/-- Day 1 is Monday. Week 1 is the week of the first Thursday; a week 53 exists in the years that
begin on a Thursday, and in the leap years that begin on a Wednesday. -/
def ofWeek? (year week day : Nat) : Option Date :=
  match Date.of? year 1 1 with
  | none => none
  | some first =>
    let long := first.weekday = 3 || (first.weekday = 2 && isLeapYear year)
    if week = 0 || 53 < week || (week = 53 && !long) || day = 0 || 7 < day then none
    else
      let monday := if 3 < first.weekday then first.ordinal + 7 - first.weekday
        else first.ordinal - first.weekday
      Date.ofOrdinal? (monday + (week - 1) * 7 + (day - 1))

/-- What stands after the year of a week date, from the week on. -/
def weekDate? (year : Nat) (dashed : Bool) (size : Nat) (rest : List Char) : Option Date :=
  (digits? 2 rest).bind fun (week, rest) =>
    if (if dashed then 8 else 7) < size then
      let rest? :=
        if dashed then (match rest with | '-' :: more => some more | _ => none) else some rest
      rest?.bind fun rest => (digits? 1 rest).bind fun (day, _) => ofWeek? year week day
    else ofWeek? year week 1

/-- Reads the date at the front of a text. The day of a week date is read when the date takes more
than the bytes up to its week; what follows the day is not looked at. -/
def dateOfSize? (size : Nat) (cs : List Char) : Option Date :=
  (digits? 4 cs).bind fun (year, rest) =>
    let dashed := rest.head? == some '-'
    let rest := if dashed then rest.drop 1 else rest
    match rest with
    | 'W' :: more => weekDate? year dashed size more
    | _ =>
      (digits? 2 rest).bind fun (month, rest) =>
        let rest? :=
          if dashed then (match rest with | '-' :: more => some more | _ => none) else some rest
        rest?.bind fun rest => (digits? 2 rest).bind fun (day, _) => Date.of? year month day

def readDate? (cs : List Char) : Option Date :=
  let size := byteLength cs
  if size = 7 || size = 8 || size = 10 then dateOfSize? size cs else none

/-! ### Times -/

structure Clock where
  hour : Nat
  minute : Nat
  second : Nat
  micro : Nat

/-- Up to six digits after the decimal mark; more digits are dropped. -/
def fraction? (cs : List Char) : Option (Nat × List Char) :=
  let ds := cs.takeWhile isAsciiDigit
  if cs.isEmpty || ds.length < min cs.length 6 then none
  else
    let kept := ds.take 6
    some (numeralValue kept * Nat.pow 10 (6 - kept.length), cs.dropWhile isAsciiDigit)

/-- A clock time, and whether one character or more is left over. The colons stand between all parts
or between none. Only seconds have a fraction: fractions of hours and of minutes are no part of the
forms that are read here, though some readers take them for a fraction of the second. -/
def clock? (cs : List Char) : Option (Clock × Bool) :=
  (digits? 2 cs).bind fun (hour, rest) =>
    match rest with
    | [] => some (⟨hour, 0, 0, 0⟩, false)
    | [_] => if rest.all (·.toNat < 128) then some (⟨hour, 0, 0, 0⟩, true) else none
    | mark :: more =>
      let colons := mark == ':'
      if mark == '.' || mark == ',' then none
      else (digits? 2 (if colons then more else rest)).bind fun (minute, rest) =>
        match rest with
        | [] => some (⟨hour, minute, 0, 0⟩, false)
        | [_] => if rest.all (·.toNat < 128) then some (⟨hour, minute, 0, 0⟩, true) else none
        | mark :: more =>
          if mark == '.' || mark == ',' || (colons && mark != ':') then none
          else (digits? 2 (if colons then more else rest)).bind fun (second, rest) =>
            match rest with
            | [] => some (⟨hour, minute, second, 0⟩, false)
            | [_] =>
              if rest.all (·.toNat < 128) then some (⟨hour, minute, second, 0⟩, true) else none
            | mark :: more =>
              if mark == '.' || mark == ',' then
                (fraction? more).map fun (micro, left) =>
                  (⟨hour, minute, second, micro⟩, !left.isEmpty)
              else if colons then none
              else (fraction? rest).map fun (micro, left) =>
                (⟨hour, minute, second, micro⟩, !left.isEmpty)

def isOffsetMark (c : Char) : Bool := c == '+' || c == '-' || c == 'Z'

/-- A clock time and, after the first offset mark, the offset. -/
def time? (cs : List Char) : Option (Clock × Option Int) :=
  let body := cs.takeWhile (fun c => !isOffsetMark c)
  (clock? body).bind fun (clock, left) =>
    match cs.dropWhile (fun c => !isOffsetMark c) with
    | [] => if left then none else some (clock, none)
    | 'Z' :: rest => if rest.isEmpty then some (clock, some 0) else none
    | mark :: rest =>
      (clock? rest).bind fun (shift, left) =>
        if left then none
        else
          let micros : Int :=
            (shift.hour * 3600 + shift.minute * 60 + shift.second) * 1000000 + shift.micro
          some (clock, some (if mark == '-' then -micros else micros))

/-! ### Moments -/

/-- Where the date ends: the forms of a date differ in their fifth and sixth characters, and a run
of digits after a week is split so that the digits of the time come in pairs. -/
def dateSize (cs : List Char) : Nat :=
  let at_ (i : Nat) : Char := cs.getD i (Char.ofNat 0)
  if cs.length = 7 then 7
  else if at_ 4 == '-' then
    if at_ 5 == 'W' then
      if at_ 8 == '-' then
        (if cs.length = 9 then 0 else if isAsciiDigit (at_ 10) then 8 else 10)
      else 8
    else 10
  else if at_ 4 == 'W' then
    let stop := 7 + ((cs.drop 7).takeWhile isAsciiDigit).length
    if stop < 9 then stop else if stop % 2 = 0 then 7 else 8
  else 8

def readMoment? (cs : List Char) : Option Moment :=
  let size := dateSize cs
  (dateOfSize? size cs).bind fun date =>
    match cs.drop size with
    | [] => some (Moment.atMidnight date)
    | _ :: rest =>
      (time? rest).bind fun (clock, offset) =>
        let m : Moment := ⟨date, clock.hour, clock.minute, clock.second, clock.micro, offset⟩
        if m.isValid then some m else none

end QuotationPress.Iso
