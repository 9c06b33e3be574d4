import Mathlib.Data.List.TakeWhile
import Mathlib.Tactic.Ring
import QuotationPress.Number.Numeral
import QuotationPress.Text.Digit
import QuotationPress.Text.Split

/-!
# Decimal numerals and their digits

`numeralValue_numeral` reads a numeral back, `digitCount_le_iff` bounds a number by the length of
its numeral, and `takeWhile_digits_append` says where a run of digits ends.
-/

namespace QuotationPress

open Text (isAsciiDigit takeWhile_dropWhile_append)

/-! ### Values of digit runs -/

theorem numeralValue_eq_ofDigitChars (cs : List Char) :
    numeralValue cs = Nat.ofDigitChars 10 cs 0 := by
  simp only [numeralValue, Nat.ofDigitChars_eq_foldl, Nat.mul_comm]

/-- A numeral is read as the number that it is written for. -/
@[simp] theorem numeralValue_numeral (n : ℕ) : numeralValue (numeral n) = n := by
  rw [numeralValue_eq_ofDigitChars, numeral, Nat.ofDigitChars_ten_toDigits]

theorem numeralValue_append (cs ds : List Char) :
    numeralValue (cs ++ ds) = numeralValue cs * 10 ^ ds.length + numeralValue ds := by
  simp only [numeralValue_eq_ofDigitChars, Nat.ofDigitChars_append]
  rw [Nat.ofDigitChars_eq_ofDigitChars_zero, Nat.mul_comm]

@[simp] theorem numeralValue_replicate_zero (n : ℕ) : numeralValue (List.replicate n '0') = 0 := by
  simp [numeralValue_eq_ofDigitChars, Nat.ofDigitChars_replicate_zero]

@[simp] theorem numeralValue_zeros_append (n : ℕ) (ds : List Char) :
    numeralValue (List.replicate n '0' ++ ds) = numeralValue ds := by
  simp [numeralValue_append]

@[simp] theorem numeralValue_padded (width n : ℕ) : numeralValue (padded width n) = n := by
  simp [padded]

/-! ### Lengths -/

theorem digitCount_pos (n : ℕ) : 0 < digitCount n := Nat.length_toDigits_pos

theorem digitCount_le_iff {n k : ℕ} (hk : 0 < k) : digitCount n ≤ k ↔ n < 10 ^ k :=
  Nat.length_toDigits_le_iff (by decide) hk

theorem lt_pow_digitCount (n : ℕ) : n < 10 ^ digitCount n :=
  (digitCount_le_iff (digitCount_pos n)).mp le_rfl

theorem pow_le_of_lt_digitCount {n k : ℕ} (hn : 0 < n) (h : k < digitCount n) : 10 ^ k ≤ n := by
  obtain rfl | hk := Nat.eq_zero_or_pos k
  · exact hn
  · exact Nat.le_of_not_lt fun lt => absurd ((digitCount_le_iff hk).mpr lt) (by omega)

theorem length_padded (width : ℕ) {n : ℕ} (pos : 0 < width) (small : n < 10 ^ width) :
    (padded width n).length = width := by
  have fits : (numeral n).length ≤ width := (digitCount_le_iff pos).mpr small
  rw [padded, List.length_append, List.length_replicate, digitCount]
  omega

/-! ### Digits -/

theorem isAsciiDigit_of_mem_numeral {n : ℕ} {c : Char} (h : c ∈ numeral n) :
    isAsciiDigit c = true := by
  have := Nat.isDigit_of_mem_toDigits (by decide) (by decide) h
  simpa [isAsciiDigit, Char.isDigit, Char.le_def] using this

theorem all_isAsciiDigit_numeral (n : ℕ) : (numeral n).all isAsciiDigit = true :=
  List.all_eq_true.mpr fun _ => isAsciiDigit_of_mem_numeral

theorem all_isAsciiDigit_padded (width n : ℕ) : (padded width n).all isAsciiDigit = true := by
  rw [padded, List.all_append, all_isAsciiDigit_numeral, Bool.and_true]
  exact List.all_eq_true.mpr fun c hc => by rw [List.eq_of_mem_replicate hc]; rfl

theorem numeral_ne_nil (n : ℕ) : numeral n ≠ [] := Nat.toDigits_ne_nil

theorem padded_ne_nil (width n : ℕ) : padded width n ≠ [] := by
  simp [padded, numeral_ne_nil]

/-- Only zero begins with a zero. -/
theorem head?_numeral {n : ℕ} (hn : 0 < n) : (numeral n).head? ≠ some '0' := by
  induction n using Nat.strongRecOn with
  | ind n ih =>
    unfold numeral
    by_cases small : n < 10
    · rw [Nat.toDigits_of_lt_base small]
      simpa using hn.ne'
    · rw [Nat.toDigits_of_base_le (by decide) (by omega), List.head?_append,
        Option.or_of_isSome (by simp)]
      exact ih (n / 10) (by omega) (by omega)

/-- A text that does not go on with a digit. -/
def EndsDigits (cs : List Char) : Prop := ∀ c ∈ cs.head?, isAsciiDigit c = false

theorem takeWhile_digits_append {ds rest : List Char} (h : ds.all isAsciiDigit = true)
    (hr : EndsDigits rest) :
    (ds ++ rest).takeWhile isAsciiDigit = ds ∧ (ds ++ rest).dropWhile isAsciiDigit = rest :=
  takeWhile_dropWhile_append (List.all_eq_true.mp h) hr

end QuotationPress
