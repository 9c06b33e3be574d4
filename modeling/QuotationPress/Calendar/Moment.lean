import QuotationPress.Calendar.Date

/-!
# Points in time

A `Moment` is a day with a time of day and, when one is known, an offset from universal time in
microseconds. `Moment.isoWith` writes it with a chosen mark between day and time.
-/

namespace QuotationPress

structure Moment where
  date : Date
  hour : Nat
  minute : Nat
  second : Nat
  micro : Nat
  offset : Option Int
  deriving DecidableEq, Inhabited

namespace Moment

def atMidnight (d : Date) : Moment := ⟨d, 0, 0, 0, 0, none⟩

/-- An offset of so many seconds. -/
def offsetOfSeconds (seconds : Int) : Int := seconds * 1000000

/-- An offset of less than a day. -/
def isOffset (micros : Int) : Bool := micros.natAbs < 86400000000

/-- A time of day that exists, and an offset that does. -/
def isValid (m : Moment) : Bool :=
  m.hour < 24 && m.minute < 60 && m.second < 60 && m.micro < 1000000
    && (match m.offset with | none => true | some o => isOffset o)

/-- Seconds from midnight. -/
def secondOfDay (m : Moment) : Nat := m.hour * 3600 + m.minute * 60 + m.second

/-- Hours and minutes; seconds and microseconds where there are any. -/
def offsetText (micros : Int) : List Char :=
  let n := micros.natAbs / 1000000
  let rest := micros.natAbs % 1000000
  (if micros < 0 then '-' else '+') :: padded 2 (n / 3600) ++ ':' :: padded 2 (n / 60 % 60)
    ++ (if n % 60 = 0 && rest = 0 then [] else ':' :: padded 2 (n % 60))
    ++ (if rest = 0 then [] else '.' :: padded 6 rest)

def isoWith (mark : Char) (m : Moment) : String :=
  String.ofList (m.date.isoForm.toList ++ mark :: padded 2 m.hour ++ ':' :: padded 2 m.minute
    ++ ':' :: padded 2 m.second ++ (if m.micro = 0 then [] else '.' :: padded 6 m.micro)
    ++ (match m.offset with | none => [] | some o => offsetText o))

/-- Microseconds from the beginning of the calendar to a moment whose offset is known. -/
def instant? (m : Moment) : Option Int :=
  m.offset.map fun o =>
    (((m.date.ordinal * 86400 + m.secondOfDay) * 1000000 + m.micro : Nat) : Int) - o

/-- The moment that many seconds later, `none` past year 9999. -/
def addSeconds? (m : Moment) (seconds : Nat) : Option Moment :=
  let total := m.secondOfDay + seconds
  let rest := total % 86400
  (m.date.addDays? (total / 86400)).map fun d =>
    { m with date := d, hour := rest / 3600, minute := rest / 60 % 60, second := rest % 60 }

/-- Orders moments by their field values, offsets left out. -/
def before (a b : Moment) : Bool :=
  let key (m : Moment) := (m.date.ordinal * 86400 + m.secondOfDay) * 1000000 + m.micro
  key a < key b

end Moment

end QuotationPress
