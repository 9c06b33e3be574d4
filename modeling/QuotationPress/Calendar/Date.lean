import QuotationPress.Number.Numeral

/-!
# Days of the Gregorian calendar, years 1 to 9999

A `Date` is always a day that exists; `Date.ordinal` counts days from the first of January of year
1, `Date.ofOrdinal?` goes back, and `Date.longForm` writes `19 October 2026`.
-/

namespace QuotationPress

def isLeapYear (year : Nat) : Bool := year % 4 == 0 && (year % 100 != 0 || year % 400 == 0)

def monthLengths (year : Nat) : List Nat :=
  [31, if isLeapYear year then 29 else 28, 31, 30, 31, 30, 31, 31, 30, 31, 30, 31]

def daysInMonth (year month : Nat) : Nat := (monthLengths year).getD (month - 1) 0

def isCalendarDay (year month day : Nat) : Bool :=
  1 ≤ year && year ≤ 9999 && 1 ≤ month && month ≤ 12 && 1 ≤ day && day ≤ daysInMonth year month

structure Date where
  year : Nat
  month : Nat
  day : Nat
  exists_day : isCalendarDay year month day = true := by decide

namespace Date

instance : Inhabited Date := ⟨{ year := 1, month := 1, day := 1 }⟩

def of? (year month day : Nat) : Option Date :=
  if h : isCalendarDay year month day = true then some ⟨year, month, day, h⟩ else none

theorem ext_fields {a b : Date} (hy : a.year = b.year) (hm : a.month = b.month)
    (hd : a.day = b.day) : a = b := by
  cases a; cases b; simp_all

theorem of?_self (d : Date) : of? d.year d.month d.day = some d := by
  simp [of?, d.exists_day]

instance : DecidableEq Date := fun a b =>
  decidable_of_iff (a.year = b.year ∧ a.month = b.month ∧ a.day = b.day)
    ⟨fun h => ext_fields h.1 h.2.1 h.2.2, fun h => by simp [h]⟩

/-! ### Counting days -/

def daysBeforeYear (year : Nat) : Nat :=
  let y := year - 1
  y * 365 + y / 4 - y / 100 + y / 400

def daysBeforeMonth (year month : Nat) : Nat :=
  ((monthLengths year).take (month - 1)).foldr (· + ·) 0

def ordinal (d : Date) : Nat :=
  daysBeforeYear d.year + daysBeforeMonth d.year d.month + d.day

/-- The year that the day with the given distance from the first day falls in. -/
def yearOf (n : Nat) : Nat :=
  let (n400, n) := (n / 146097, n % 146097)
  let (n100, n) := (min (n / 36524) 3, n - min (n / 36524) 3 * 36524)
  let (n4, n) := (n / 1461, n % 1461)
  n400 * 400 + n100 * 100 + n4 * 4 + min (n / 365) 3 + 1

/-- Month and day of the `n`-th day of a year, counted from zero. -/
def monthAndDay : List Nat → Nat → Nat → Nat × Nat
  | [], month, n => (month, n + 1)
  | len :: rest, month, n =>
    if n < len then (month, n + 1) else monthAndDay rest (month + 1) (n - len)

def ofOrdinal? (n : Nat) : Option Date :=
  if n = 0 then none
  else
    let year := yearOf (n - 1)
    let (month, day) := monthAndDay (monthLengths year) 1 (n - 1 - daysBeforeYear year)
    of? year month day

/-- `none` past the last day of year 9999. -/
def addDays? (d : Date) (days : Nat) : Option Date := ofOrdinal? (d.ordinal + days)

/-- Zero is Monday. -/
def weekday (d : Date) : Nat := (d.ordinal + 6) % 7

/-! ### Texts -/

def monthNames : List String :=
  ["January", "February", "March", "April", "May", "June",
   "July", "August", "September", "October", "November", "December"]

def monthName (month : Nat) : String := monthNames.getD (month - 1) ""

def longForm (d : Date) : String :=
  String.ofList (numeral d.day ++ ' ' :: (monthName d.month).toList ++ ' ' :: numeral d.year)

/-- Year, month and day, `2026-10-19`. -/
def isoForm (d : Date) : String :=
  String.ofList (padded 4 d.year ++ '-' :: padded 2 d.month ++ '-' :: padded 2 d.day)

end Date

end QuotationPress
