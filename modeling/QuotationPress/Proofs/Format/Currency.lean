import QuotationPress.Format.Amount
import QuotationPress.Proofs.Number.DecimalReading
import QuotationPress.Proofs.Number.DecimalRounding
import QuotationPress.Proofs.Number.Grouping
import QuotationPress.Proofs.Outcome

/-!
# Amounts of money as they are written

`currency_grouped` says for every finite amount that is not too long that it is rounded to the
nearest whole number and written in lakhs and crores behind its sign and the symbol.
-/

namespace QuotationPress.Format

open Binary64 (scaled)

/-- The decimal that a text spells, without the blanks around it and the commas in it. -/
def spelledDecimal? (s : String) : Option Decimal :=
  Decimal.read? ((Text.trim s.toList).filter (· ≠ ','))

/-- The finite numbers, and the texts that spell one. -/
def IsFiniteAmount : Value → Prop
  | .int _ => True
  | .float x => x.isFinite = true
  | .decimal d => d.isFinite = true
  | .str s => (spelledDecimal? s).any Decimal.isFinite = true
  | _ => False

/-- The number that an amount is written as: of a floating point number, the one that its text
spells. -/
def writtenValue? : Value → Option ℚ
  | .int i => some i
  | .float x => (Decimal.read? x.text).bind Decimal.value?
  | .decimal d => d.value?
  | .str s => (spelledDecimal? s).bind Decimal.value?
  | _ => none

variable {amount : Value} {negative : Bool} {c n : ℕ} {e : ℤ}

theorem value?_ofInt (i : ℤ) : (Decimal.ofInt i).value? = some (i : ℚ) := by
  have magnitude : (i.natAbs : ℚ) = |(i : ℚ)| := by rw [Nat.cast_natAbs, Int.cast_abs]
  simp only [Decimal.ofInt, Decimal.value?, scaled, zpow_zero, mul_one, magnitude,
    decide_eq_true_eq]
  split
  · next below => rw [abs_of_neg (by exact_mod_cast below), neg_neg]
  · next above => rw [abs_of_nonneg (by exact_mod_cast not_lt.mp above)]

/-- Every finite amount is written as a finite decimal, and it is read as such unless it is a whole
number whose numeral is too long. -/
theorem exists_decimal (finite : IsFiniteAmount amount) :
    ∃ negative c e, writtenValue? amount = (Decimal.finite negative c e).value? ∧
      (decimalOf? amount = .ok (some (.finite negative c e)) ∨
        decimalOf? amount = .error .numeralTooLong ∧ 10 ^ numeralLimit ≤ c ∧ e = 0) := by
  cases amount with
  | int i =>
    refine ⟨_, _, _, (value?_ofInt i).symm, ?_⟩
    rw [decimalOf?, Value.intText]
    split
    · next long =>
      have large := not_le.mpr long
      rw [digitCount_le_iff (by decide), not_lt] at large
      -- too long to be written, and far beyond every amount with room
      exact .inr ⟨rfl, large, rfl⟩
    · exact .inl rfl
  | float x =>
    have written := Decimal.read?_text finite
    obtain ⟨n, parts⟩ := NumberParts.exists_isPartsOf finite
    rw [parts.decimal] at written
    refine ⟨_, _, _, by rw [writtenValue?, written, Option.bind_some], .inl ?_⟩
    rw [decimalOf?, parts.decimal]
  | decimal d =>
    obtain ⟨negative, c, e⟩ | _ | _ := d
    · exact ⟨negative, c, e, rfl, .inl rfl⟩
    all_goals cases finite
  | str s =>
    obtain ⟨d, spelled, isFinite⟩ := (Option.any_eq_true ..).mp finite
    obtain ⟨negative, c, e⟩ | _ | _ := d
    · exact ⟨negative, c, e, by rw [writtenValue?, spelled, Option.bind_some],
        .inl (congrArg Except.ok spelled)⟩
    all_goals cases isFinite
  | _ => cases finite

/-- A finite amount is written rounded, behind its sign and the symbol. -/
theorem currency_of_finite (symbol : String)
    (read : decimalOf? amount = .ok (some (.finite negative c e)))
    (rounded : Decimal.roundedMagnitude? c e = some n) :
    currency symbol amount = .ok (amountText symbol negative n) := by
  have given : amount.isNull = false := by
    cases amount <;> first | rfl | cases read
  rw [currency, given, read]
  simp only [Bool.false_eq_true, ↓reduceIte, Outcome.ok_bind, rounded]
  rfl

/-- The sign is left out of an amount that is rounded to zero. -/
theorem toList_amountText (symbol : String) (negative : Bool) (n : ℕ) :
    (amountText symbol negative n).toList =
      (if negative && n ≠ 0 then ['-'] else []) ++ symbol.toList ++ grouped (numeral n) := by
  rw [amountText, groupedText]
  split <;> simp

/-- How an amount is written: a finite one as a rounded amount, and everything else as its text. -/
theorem currency_cases {symbol s : String} (h : currency symbol amount = .ok s) :
    (∃ negative c e n, decimalOf? amount = .ok (some (.finite negative c e)) ∧
        Decimal.roundedMagnitude? c e = some n ∧ s = amountText symbol negative n) ∨
      (amount.isNull = true ∧ s = "") ∨ (¬ IsFiniteAmount amount ∧ amount.text = .ok s) := by
  unfold currency at h
  split at h
  · next null => exact .inr (.inl ⟨null, (Except.ok.inj h).symm⟩)
  · obtain ⟨d, read, h⟩ := Outcome.bind_eq_ok.mp h
    split at h
    · next negative c e =>
      split at h
      · next n rounded => exact .inl ⟨negative, c, e, n, read, rounded, (Except.ok.inj h).symm⟩
      · cases h
    · -- what is read as no finite decimal is no finite amount
      next infinite =>
      refine .inr (.inr ⟨fun finite => ?_, h⟩)
      obtain ⟨negative, c, e, -, again | ⟨failed, -⟩⟩ := exists_decimal finite
      · exact infinite negative c e (Except.ok.inj (read.symm.trans again))
      · cases read.symm.trans failed

/-- A finite amount of no more than 28 digits is rounded to a whole number, a half away from zero,
and is written behind its sign and the symbol, the digits in groups. -/
theorem currency_grouped (finite : IsFiniteAmount amount) (symbol : String) :
    ∃ v : ℚ, writtenValue? amount = some v ∧
      ((nearestWhole v).natAbs < 10 ^ 28 →
        ∃ G : List Char, IsGrouping G (nearestWhole v).natAbs ∧
          currency symbol amount =
            .ok ((if nearestWhole v < 0 then "-" else "") ++ symbol ++ String.ofList G)) := by
  obtain ⟨negative, c, e, written, read⟩ := exists_decimal finite
  obtain ⟨n, rounded⟩ := exists_round_scaled c e
  have nearest := Decimal.nearestWhole_signed negative rounded
  refine ⟨_, written, fun room => ?_⟩
  rw [nearest] at room ⊢
  have magnitude : (if negative then -(n : ℤ) else n).natAbs = n := by
    split <;> simp
  have sign : ((if negative then -(n : ℤ) else n) < 0) = ((negative && decide (n ≠ 0)) = true) := by
    cases negative <;> simp [Nat.pos_iff_ne_zero]
  rw [magnitude] at room ⊢
  refine ⟨grouped (numeral n), isGrouping_grouped n, ?_⟩
  have fits := (Decimal.roundedMagnitude?_eq rounded).trans (if_pos room)
  obtain read | ⟨-, long, rfl⟩ := read
  · rw [currency_of_finite symbol read fits, amountText, groupedText]
    simp only [sign]
  · -- such a number has far more digits than there is room for
    rw [scaled, zpow_zero, mul_one, round_natCast, Nat.cast_inj] at rounded
    rw [rounded] at long
    exact absurd (long.trans_lt room)
      (Nat.not_lt.mpr (Nat.pow_le_pow_right (by decide) (by decide)))

/-- A negative amount that lies halfway between two whole ones, given as a text with commas of its
own. -/
theorem halfRupee_grouped :
    IsFiniteAmount (.str " -1,234,567.5 ") ∧
      ∃ G : List Char, IsGrouping G 1234568 ∧
        currency "₹" (.str " -1,234,567.5 ") = .ok ("-" ++ "₹" ++ String.ofList G) := by
  have spelled : spelledDecimal? " -1,234,567.5 " = some (.finite true 12345675 (-1)) := by
    decide +kernel
  have finite : IsFiniteAmount (.str " -1,234,567.5 ") := by
    rw [IsFiniteAmount, spelled]
    rfl
  refine ⟨finite, ?_⟩
  obtain ⟨v, written, grouped⟩ := currency_grouped finite "₹"
  rw [writtenValue?, spelled, Option.bind_some, Decimal.value?, Option.some.injEq] at written
  have rounded : round (scaled 12345675 (-1)) = (1234568 : ℕ) :=
    round_eq_iff.mpr ⟨by norm_num [scaled], by norm_num [scaled]⟩
  have nearest : nearestWhole v = -1234568 := by
    rw [← written]
    exact Decimal.nearestWhole_signed true rounded
  rw [nearest] at grouped
  exact grouped (by decide)

end QuotationPress.Format
