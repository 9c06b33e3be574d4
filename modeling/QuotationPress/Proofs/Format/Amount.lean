import QuotationPress.Format.Cell
import QuotationPress.Proofs.Json.Listing
import QuotationPress.Proofs.Number.DecimalRounding
import QuotationPress.Proofs.Number.Overflow
import QuotationPress.Proofs.Value.Texts

/-!
# Which values can be written

A text of a value of a kind that JSON has never fails; what fails is arithmetic with too large
numbers. `Format.succeeds_currency_iff`, `Format.succeeds_number_iff` and
`Format.succeeds_isPositiveAmount_iff` say from where on numbers are too large.
-/

namespace QuotationPress

open Outcome (Succeeds)
open Binary64 (scaled scaled_of_nonneg scaled_of_neg)

namespace Decimal

/-- The magnitude of a finite decimal. -/
def magnitude? : Decimal → Option ℚ
  | finite _ c e => some (scaled c e)
  | _ => none

/-! ### Whole decimals -/

/-- The test by the last digits asks whether the decimal is a whole number. -/
theorem isWhole_iff (c : ℕ) (e : ℤ) : isWhole c e = true ↔ ∃ n : ℕ, scaled c e = n := by
  by_cases zero : c = 0
  · exact iff_of_true (by simp [isWhole, zero]) ⟨0, by simp [scaled, zero]⟩
  have hc : 0 < c := Nat.pos_of_ne_zero zero
  by_cases whole : 0 ≤ e
  · exact iff_of_true (by simp [isWhole, whole])
      ⟨c * Nat.pow 10 e.toNat, by rw [scaled_of_nonneg c whole, Nat.cast_one, div_one]⟩
  have pos : (0 : ℚ) < (Nat.pow 10 e.natAbs : ℕ) := by exact_mod_cast Nat.pow_pos (by decide)
  rw [scaled_of_neg c whole]
  simp only [isWhole, zero, whole, Bool.or_eq_true, beq_iff_eq, decide_eq_true_eq, Bool.and_eq_true,
    false_or, div_eq_iff pos.ne']
  constructor
  · rintro ⟨-, divides⟩
    refine ⟨c / Nat.pow 10 e.natAbs, ?_⟩
    exact_mod_cast (Nat.div_mul_cancel (Nat.dvd_of_mod_eq_zero divides)).symm
  · rintro ⟨n, hn⟩
    have split : c = n * 10 ^ e.natAbs := by exact_mod_cast hn
    have one : 1 ≤ n := Nat.pos_of_ne_zero fun none => by simp [none] at split; omega
    refine ⟨?_, Nat.mod_eq_zero_of_dvd ⟨n, by rw [split, Nat.mul_comm]; rfl⟩⟩
    by_contra short
    have below : c < 10 ^ e.natAbs := (digitCount_le_iff (by omega)).mp (not_lt.mp short)
    exact absurd below (not_lt.mpr (split ▸ Nat.le_mul_of_pos_left _ one))

/-- A whole number has no text exactly if its numeral is too long. -/
theorem wholeMagnitude?_eq_none_iff (c : ℕ) (e : ℤ) :
    Format.wholeMagnitude? c e = none ↔ (10 : ℚ) ^ numeralLimit ≤ scaled c e := by
  by_cases zero : c = 0
  · exact iff_of_false (by simp [Format.wholeMagnitude?, zero]) (by simp [scaled, zero])
  have hc : 0 < c := Nat.pos_of_ne_zero zero
  have long : Format.wholeMagnitude? c e = none ↔ (numeralLimit : ℤ) < e + digitCount c := by
    simp only [Format.wholeMagnitude?, zero, ↓reduceIte]
    split_ifs <;> simp_all
  have bound : ((10 ^ numeralLimit : ℕ) : ℚ) = 10 ^ numeralLimit := Nat.cast_pow 10 numeralLimit
  have short : scaled c e < 10 ^ numeralLimit ↔ e + digitCount c ≤ numeralLimit := by
    rw [← bound]
    by_cases whole : 0 ≤ e
    · have count := digitCount_add_le_iff hc e.toNat numeralLimit
      rw [scaled_of_nonneg c whole, Nat.cast_one, div_one, Nat.cast_lt, Nat.pow_eq, ← count]
      omega
    · have pos : (0 : ℚ) < (Nat.pow 10 e.natAbs : ℕ) := by exact_mod_cast Nat.pow_pos (by decide)
      have count := digitCount_le_iff (n := c) (k := numeralLimit + e.natAbs) (by omega)
      rw [scaled_of_neg c whole, div_lt_iff₀ pos, ← Nat.cast_mul, Nat.cast_lt, Nat.pow_eq,
        ← pow_add, ← count]
      omega
  rw [long, ← not_lt, short, not_le]

end Decimal

namespace Format

/-- The magnitude of the finite number that a value stands for. -/
def magnitude? (v : Value) : Option ℚ :=
  match decimalOf? v with
  | .ok (some d) => d.magnitude?
  | _ => none

/-- An amount that has too many digits once it is rounded. -/
def Oversized (v : Value) : Prop := ∃ m ∈ magnitude? v, (10 : ℚ) ^ Decimal.precision - 1 / 2 ≤ m

/-- A whole number whose numeral is too long. -/
def Overlong (v : Value) : Prop := ∃ n : ℕ, magnitude? v = some (n : ℚ) ∧ 10 ^ numeralLimit ≤ n

/-- A whole number that is too large for a floating point number. -/
def Overflows : Value → Prop
  | .int i => Binary64.overflow ≤ i.natAbs
  | _ => False

variable {v : Value}

/-- Every value that JSON has has a plain text. -/
theorem succeeds_plain (json : v.IsJson) : Succeeds (plain v) := by
  have text := json.succeeds_text
  cases json with
  | @float x one =>
    rw [plain]
    cases whole : x.whole? with
    | none => exact text
    | some i => exact succeeds_intText_iff.mpr (Binary64.digitCount_of_whole? whole)
  | null => exact Outcome.succeeds_ok
  | bool b => exact Outcome.succeeds_ok
  | list items => exact Outcome.succeeds_ok
  | obj distinct values => exact Outcome.succeeds_ok
  | int short => exact text
  | str s => exact text

theorem succeeds_longDate (json : v.IsJson) : Succeeds (longDate v) := by
  have text := json.succeeds_text
  cases json <;> first | exact Outcome.succeeds_ok | exact text

theorem short_of_isJson (json : v.IsJson) : v.Short := Value.succeeds_text_iff.mp json.succeeds_text

/-- What number a value stands for can be told unless it is a whole number that is too long. -/
theorem succeeds_decimalOf?_iff : Succeeds (decimalOf? v) ↔ ∀ i, v = .int i → IsShort i := by
  cases v with
  | int i =>
    have whole : Succeeds (decimalOf? (.int i)) ↔ Succeeds (Value.intText i) :=
      Outcome.succeeds_bind_iff_left fun _ => Outcome.succeeds_pure
    rw [whole, succeeds_intText_iff]
    exact ⟨fun short j same => Value.int.inj same ▸ short, fun all => all i rfl⟩
  | _ => exact iff_of_true Outcome.succeeds_ok (by simp)

theorem succeeds_decimalOf? (json : v.IsJson) : Succeeds (decimalOf? v) :=
  succeeds_decimalOf?_iff.mpr fun _ same => Value.short_int.mp (same ▸ short_of_isJson json)

/-- A value that stands for a number is not made of others, so that it has a text. -/
theorem short_of_decimalOf? {d : Decimal} (h : decimalOf? v = .ok (some d)) : v.Short := by
  cases v with
  | int i => exact .int (succeeds_decimalOf?_iff.mp ⟨_, h⟩ i rfl)
  | list xs => cases h
  | tuple xs => cases h
  | obj fs => cases h
  | keyed es => cases h
  | _ => exact .other rfl (by simp)

/-- An amount can be written unless a whole number is too long, or the amount has too many digits
once it is rounded. -/
theorem succeeds_currency_iff_short (v : Value) (symbol : String) :
    Succeeds (currency symbol v) ↔ v.Short ∧ ¬ Oversized v := by
  have text := @Value.succeeds_text_iff v
  unfold currency Oversized magnitude?
  by_cases null : v.isNull = true
  · obtain rfl := Value.eq_null_of_isNull null
    exact iff_of_true Outcome.succeeds_ok ⟨.other rfl (by simp), by simp [decimalOf?]⟩
  cases hd : decimalOf? v with
  | error e =>
    refine iff_of_false ?_ fun h => ?_
    · simp only [null]
      exact Outcome.not_succeeds_error
    · have found : Succeeds (decimalOf? v) :=
        succeeds_decimalOf?_iff.mpr fun _ same => Value.short_int.mp (same ▸ h.1)
      rw [hd] at found
      exact Outcome.not_succeeds_error found
  | ok d =>
    simp only [null, Outcome.ok_bind, Bool.false_eq_true, ↓reduceIte]
    obtain - | ⟨negative, c, e⟩ | - | - := d
    · simpa using text
    · have oversized := Decimal.roundedMagnitude?_eq_none_iff c e
      simp only [Decimal.magnitude?, Option.mem_some_iff, exists_eq_left', ← oversized,
        short_of_decimalOf? hd, true_and]
      cases Decimal.roundedMagnitude? c e with
      | none => exact iff_of_false Outcome.not_succeeds_error (not_not_intro rfl)
      | some n => exact iff_of_true Outcome.succeeds_ok (Option.some_ne_none n)
    · simpa [Decimal.magnitude?] using text
    · simpa [Decimal.magnitude?] using text

/-- Rounding and writing an amount of a kind that JSON has fails only for its digits, of which there
may be too many. -/
theorem succeeds_currency_iff (json : v.IsJson) (symbol : String) :
    Succeeds (currency symbol v) ↔ ¬ Oversized v := by
  rw [succeeds_currency_iff_short, and_iff_right (short_of_isJson json)]

/-- A value that JSON has is written as a number unless it is a whole one that is too long. -/
theorem succeeds_number_iff (json : v.IsJson) : Succeeds (number v) ↔ ¬ Overlong v := by
  obtain ⟨d, hd⟩ := succeeds_decimalOf? json
  have plain := succeeds_plain json
  unfold number Overlong magnitude?
  simp only [hd, Outcome.ok_bind]
  obtain - | ⟨negative, c, e⟩ | - | - := d
  · simpa using plain
  · have whole := Decimal.isWhole_iff c e
    have overlong := Decimal.wholeMagnitude?_eq_none_iff c e
    simp only [Decimal.magnitude?, Option.some.injEq]
    split
    · next isWhole =>
      obtain ⟨n, hn⟩ := whole.mp isWhole
      have bound : ((10 ^ numeralLimit : ℕ) : ℚ) = 10 ^ numeralLimit := Nat.cast_pow 10 numeralLimit
      rw [hn, ← bound, Nat.cast_le] at overlong
      rw [hn]
      simp only [Nat.cast_inj, exists_eq_left', ← overlong]
      cases wholeMagnitude? c e with
      | none => exact iff_of_false Outcome.not_succeeds_error (not_not_intro rfl)
      | some n => exact iff_of_true Outcome.succeeds_ok (Option.some_ne_none n)
    · -- a broken number keeps its digits, however many
      next broken =>
      exact iff_of_true Outcome.succeeds_ok fun ⟨n, hn, _⟩ => broken (whole.mpr ⟨n, hn⟩)
  · simpa [Decimal.magnitude?] using plain
  · simpa [Decimal.magnitude?] using plain

theorem magnitude?_of_isBlankField (blank : v.isBlankField = true) : magnitude? v = none := by
  cases v with
  | null => rfl
  | str s =>
    obtain rfl : s = "" := by simpa [Value.isBlankField] using blank
    rfl
  | _ => cases blank

/-- Only an amount of money and a number can be too large for a cell. -/
theorem succeeds_cell_iff (json : v.IsJson) (symbol : String) (format : Option String) :
    Succeeds (cell symbol format v) ↔
      (format = some "currency" → ¬ Oversized v) ∧ (format = some "number" → ¬ Overlong v) := by
  unfold cell
  split
  · next blank => simp [Oversized, Overlong, magnitude?_of_isBlankField blank]
  · split
    · simp [succeeds_currency_iff json]
    · simp [succeeds_number_iff json]
    · simp [succeeds_longDate json]
    · simp_all [succeeds_plain json]

theorem isShort_of_not_overflows {i : ℤ} (small : ¬ Overflows (.int i)) : IsShort i := by
  have below : i.natAbs < Binary64.overflow := not_le.mp small
  have bound : Binary64.overflow ≤ 10 ^ numeralLimit := by decide +kernel
  exact (digitCount_le_iff (by decide)).mpr (below.trans_le bound)

/-- An amount can be read unless a whole number is too long, or too large for a floating point
number. -/
theorem succeeds_readAmount?_iff
    (quiet : ∀ negative payload, v ≠ .decimal (.nan negative true payload)) :
    Succeeds (readAmount? v) ↔ v.Short ∧ ¬ Overflows v := by
  have written (h : readAmount? v = v.text >>= fun s => pure (readAmountText? s.toList))
    (small : ¬ Overflows v) :
      Succeeds (readAmount? v) ↔ v.Short ∧ ¬ Overflows v := by
    rw [h, Outcome.succeeds_bind_iff_left fun _ => Outcome.succeeds_pure, Value.succeeds_text_iff,
      and_iff_left small]
  cases v with
  | int i =>
    have small : ¬ Overflows (.int i) ↔ (Binary64.ofInt i).isFinite = true := by
      rw [Overflows, not_le, Binary64.isFinite_ofInt_iff]
    rw [and_iff_right_of_imp fun h => .int (isShort_of_not_overflows h), small, readAmount?]
    split
    · next finite => exact iff_of_true Outcome.succeeds_ok finite
    · next infinite => exact iff_of_false Outcome.not_succeeds_error infinite
  | decimal d =>
    refine iff_of_true ?_ ⟨.other rfl (by simp), not_false⟩
    obtain - | - | ⟨negative, signaling, payload⟩ := d
    · exact Outcome.succeeds_ok
    · exact Outcome.succeeds_ok
    · cases signaling with
      | true => exact absurd rfl (quiet negative payload)
      | false => exact Outcome.succeeds_ok
  | null => exact iff_of_true Outcome.succeeds_ok ⟨.other rfl (by simp), not_false⟩
  | bool b => exact iff_of_true Outcome.succeeds_ok ⟨.other rfl (by simp), not_false⟩
  | float x => exact iff_of_true Outcome.succeeds_ok ⟨.other rfl (by simp), not_false⟩
  | _ => exact written rfl not_false

/-- Whether an amount is above zero can be told unless it is too large for a float. -/
theorem succeeds_isPositiveAmount_iff (json : v.IsJson) :
    Succeeds (isPositiveAmount v) ↔ ¬ Overflows v := by
  have quiet : ∀ negative payload, v ≠ .decimal (.nan negative true payload) := by
    rintro negative payload rfl
    cases json
  unfold isPositiveAmount
  rw [Outcome.succeeds_bind_iff_left fun a => by cases a <;> exact Outcome.succeeds_ok,
    succeeds_readAmount?_iff quiet, and_iff_right (short_of_isJson json)]

end Format

end QuotationPress
