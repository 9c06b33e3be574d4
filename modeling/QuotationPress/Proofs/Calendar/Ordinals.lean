import Mathlib.Order.Monotone.Basic
import QuotationPress.Calendar.Date

/-!
# Counting days

`Date.isSome_ofOrdinal?_iff` says that days are found by their numbers as far as the calendar goes.
So `Date.isSome_addDays?_iff`: days can be added to a day unless this leads past the end of year
9999.
-/

namespace QuotationPress

namespace Date

/-! ### Years -/

/-- The days before a year, counted by the cycles of leap years. -/
theorem daysBeforeYear_cycles (a : ℕ) {b c d : ℕ} (hb : b ≤ 3) (hc : c ≤ 24) (hd : d ≤ 3) :
    daysBeforeYear (a * 400 + b * 100 + c * 4 + d + 1) =
      a * 146097 + b * 36524 + c * 1461 + d * 365 := by
  dsimp only [daysBeforeYear]
  omega

theorem isLeapYear_iff {year : ℕ} :
    isLeapYear year = true ↔ year % 4 = 0 ∧ (year % 100 ≠ 0 ∨ year % 400 = 0) := by
  simp [isLeapYear]

/-- The last of four years is a leap year, but of the last ones in a hundred years only every
fourth. -/
theorem isLeapYear_cycles (a : ℕ) {b c d : ℕ} (hb : b ≤ 3) (hc : c ≤ 24) (hd : d ≤ 3) :
    isLeapYear (a * 400 + b * 100 + c * 4 + d + 1) = true ↔ d = 3 ∧ (c = 24 → b = 3) := by
  rw [isLeapYear_iff]
  omega

theorem daysBeforeYear_succ {year : ℕ} (pos : 0 < year) :
    daysBeforeYear (year + 1) = daysBeforeYear year + if isLeapYear year then 366 else 365 := by
  obtain ⟨before, rfl⟩ := Nat.exists_eq_succ_of_ne_zero pos.ne'
  -- every fourth year has a leap day, but for the hundredths that are no four hundredths
  have four : 100 ∣ before + 1 → 4 ∣ before + 1 := Nat.dvd_trans (by decide)
  have hundred : 400 ∣ before + 1 → 100 ∣ before + 1 := Nat.dvd_trans (by decide)
  have fewer : before / 100 ≤ before / 4 := Nat.div_le_div_left (by decide) (by decide)
  simp only [daysBeforeYear, isLeapYear_iff, Nat.succ_eq_add_one, Nat.add_sub_cancel, Nat.succ_div,
    ← Nat.dvd_iff_mod_eq_zero, ne_eq]
  split_ifs <;> omega

theorem daysBeforeYear_le {y y' : ℕ} (h : y ≤ y') : daysBeforeYear y ≤ daysBeforeYear y' := by
  refine monotone_nat_of_le_succ (fun year => ?_) h
  rcases Nat.eq_zero_or_pos year with rfl | pos
  · exact Nat.zero_le _
  · rw [daysBeforeYear_succ pos]
    exact Nat.le_add_right ..

/-- A day falls in its year. -/
theorem yearOf_spec (n : ℕ) :
    0 < yearOf n ∧ daysBeforeYear (yearOf n) ≤ n ∧ n < daysBeforeYear (yearOf n + 1) := by
  let a := n / 146097
  let b := min (n % 146097 / 36524) 3
  let c := (n % 146097 - b * 36524) / 1461
  let d := min ((n % 146097 - b * 36524) % 1461 / 365) 3
  have year : yearOf n = a * 400 + b * 100 + c * 4 + d + 1 := rfl
  have hb : b ≤ 3 := Nat.min_le_right ..
  have hd : d ≤ 3 := Nat.min_le_right ..
  have hc : c ≤ 24 := by omega
  have pos : 0 < yearOf n := by omega
  -- the four cycles are the digits of the year, from the longest to the year itself
  have leap := isLeapYear_cycles a hb hc hd
  rw [daysBeforeYear_succ pos, year, daysBeforeYear_cycles a hb hc hd]
  refine ⟨by omega, by omega, ?_⟩
  split
  · omega
  · next common =>
    rw [leap] at common
    omega

/-! ### Months -/

/-- The months of a year have as many days as the year. -/
theorem sum_monthLengths (year : ℕ) :
    (monthLengths year).foldr (· + ·) 0 = if isLeapYear year then 366 else 365 := by
  unfold monthLengths
  cases isLeapYear year <;> rfl

/-- A day of a year falls in one of its months, and is a day of it. -/
theorem monthAndDay_spec {lens : List ℕ} {first n : ℕ} (inside : n < lens.foldr (· + ·) 0) :
    ∃ i len day, monthAndDay lens first n = (first + i, day) ∧ lens[i]? = some len ∧ 1 ≤ day ∧
      day ≤ len := by
  induction lens generalizing first n with
  | nil => cases inside
  | cons len rest ih =>
    rw [monthAndDay]
    by_cases here : n < len
    · rw [if_pos here]
      exact ⟨0, len, n + 1, rfl, rfl, by omega, here⟩
    · rw [List.foldr_cons] at inside
      obtain ⟨i, len', day, found, at_i, one, last⟩ := @ih (first + 1) (n - len) (by omega)
      rw [if_neg here, found]
      exact ⟨i + 1, len', day, by simp [Nat.add_assoc, Nat.add_comm 1], at_i, one, last⟩

theorem daysInMonth_le (year month : ℕ) : daysInMonth year month ≤ 31 := by
  have short : ∀ len ∈ monthLengths year, len ≤ 31 := by
    unfold monthLengths
    cases isLeapYear year <;> decide
  rw [daysInMonth, List.getD_eq_getElem?_getD]
  cases found : (monthLengths year)[month - 1]? with
  | none => exact Nat.zero_le _
  | some len => exact short len (List.mem_of_getElem? found)

theorem inCalendar (d : Date) :
    (1 ≤ d.year ∧ d.year ≤ 9999) ∧ (1 ≤ d.month ∧ d.month ≤ 12) ∧ 1 ≤ d.day ∧ d.day ≤ 31 := by
  have exist := d.exists_day
  have short := daysInMonth_le d.year d.month
  simp only [isCalendarDay, Bool.and_eq_true, decide_eq_true_eq] at exist
  omega

/-! ### Days by their numbers -/

/-- The year, the month and the day that a number leads to, whether or not the year is in the
calendar. -/
theorem ofOrdinal?_eq {n : ℕ} (pos : 0 < n) :
    ∃ month day, ofOrdinal? n = of? (yearOf (n - 1)) month day ∧
    (1 ≤ month ∧ month ≤ 12) ∧ 1 ≤ day ∧ day ≤ daysInMonth (yearOf (n - 1)) month := by
  obtain ⟨posYear, started, ends⟩ := yearOf_spec (n - 1)
  rw [daysBeforeYear_succ posYear] at ends
  have inside : n - 1 - daysBeforeYear (yearOf (n - 1)) <
      (monthLengths (yearOf (n - 1))).foldr (· + ·) 0 := by
    rw [sum_monthLengths]
    omega
  obtain ⟨i, len, day, found, at_i, one, last⟩ := @monthAndDay_spec _ 1 _ inside
  have twelve : i < 12 := (List.getElem?_eq_some_iff.mp at_i).1
  refine ⟨1 + i, day, ?_, ⟨by omega, by omega⟩, one, ?_⟩
  · simp only [ofOrdinal?, Nat.ne_of_gt pos, ↓reduceIte, found]
  · rw [daysInMonth, Nat.add_sub_cancel_left, List.getD_eq_getElem?_getD, at_i]
    exact last

/-- The end of the calendar. -/
def lastDay : Date := { year := 9999, month := 12, day := 31 }

/-- The calendar has a day for each number from one to that of its last day. -/
theorem isSome_ofOrdinal?_iff {n : ℕ} :
    (ofOrdinal? n).isSome = true ↔ 0 < n ∧ n ≤ lastDay.ordinal := by
  rcases Nat.eq_zero_or_pos n with rfl | pos
  · exact iff_of_false Bool.false_ne_true (by omega)
  obtain ⟨month, day, found, inYear, inMonth⟩ := ofOrdinal?_eq pos
  obtain ⟨posYear, started, ends⟩ := yearOf_spec (n - 1)
  have last : lastDay.ordinal = daysBeforeYear (9999 + 1) := by decide
  -- the last day is that of the year 9999, and years do not overlap
  have within : yearOf (n - 1) ≤ 9999 ↔ n ≤ lastDay.ordinal := by
    rw [last]
    constructor
    · intro before
      have later : daysBeforeYear (yearOf (n - 1) + 1) ≤ daysBeforeYear (9999 + 1) :=
        daysBeforeYear_le (Nat.succ_le_succ before)
      omega
    · intro before
      by_contra after
      have later := daysBeforeYear_le (show 9999 + 1 ≤ yearOf (n - 1) by omega)
      omega
  have exist : isCalendarDay (yearOf (n - 1)) month day = true ↔ yearOf (n - 1) ≤ 9999 := by
    simp only [isCalendarDay, Bool.and_eq_true, decide_eq_true_eq]
    exact ⟨fun h => h.1.1.1.1.2,
      fun h => ⟨⟨⟨⟨⟨posYear, h⟩, inYear.1⟩, inYear.2⟩, inMonth.1⟩, inMonth.2⟩⟩
  rw [found, and_iff_right pos, ← within, ← exist, of?]
  split
  · next exists_day => exact iff_of_true rfl exists_day
  · next missing => exact iff_of_false Bool.false_ne_true missing

/-- Days can be added to a day unless this leads past the end of the calendar. -/
theorem isSome_addDays?_iff {d : Date} {days : ℕ} :
    (d.addDays? days).isSome = true ↔ d.ordinal + days ≤ lastDay.ordinal := by
  have pos : 0 < d.ordinal := by
    obtain ⟨-, -, one, -⟩ := d.inCalendar
    rw [ordinal]
    omega
  rw [addDays?, isSome_ofOrdinal?_iff, and_iff_right (by omega)]

end Date

end QuotationPress
