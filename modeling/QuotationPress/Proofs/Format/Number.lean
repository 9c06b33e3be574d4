import QuotationPress.Proofs.Format.Amount
import QuotationPress.Proofs.Format.Currency
import QuotationPress.Proofs.Number.DecimalText

/-!
# Numbers as they are written

`number_readBack` says that nothing of a number is lost in its text: without the commas the text
spells the number, and there are commas only in whole numbers, in lakhs and crores.
-/

namespace QuotationPress

open Binary64 (scaled scaled_of_nonneg scaled_of_neg)

/-- A whole magnitude is what the decimal stands for. -/
theorem Decimal.scaled_of_wholeMagnitude? {c n : ℕ} {e : ℤ} (whole : isWhole c e = true)
    (h : Format.wholeMagnitude? c e = some n) : scaled c e = n := by
  obtain ⟨m, hm⟩ := (isWhole_iff c e).mp whole
  unfold Format.wholeMagnitude? at h
  split_ifs at h with zero long nonneg
  · rw [← Option.some.inj h, zero, scaled, Nat.cast_zero, zero_mul]
  · rw [← Option.some.inj h, scaled_of_nonneg c nonneg, Nat.cast_one, div_one]
  · have pos : 0 < Nat.pow 10 e.natAbs := Nat.pow_pos (by decide)
    have pos' : ((Nat.pow 10 e.natAbs : ℕ) : ℚ) ≠ 0 := by exact_mod_cast pos.ne'
    have product := hm
    rw [scaled_of_neg c nonneg, div_eq_iff pos'] at product
    have split : c = m * Nat.pow 10 e.natAbs := by exact_mod_cast product
    rw [hm, ← Option.some.inj h, split, Nat.mul_div_cancel m pos]

namespace Format

/-- The number that a text spells, commas left out. -/
def spelledValue? (s : String) : Option ℚ :=
  (Decimal.read? (s.toList.filter (· ≠ ','))).bind Decimal.value?

variable {v : Value} {negative : Bool} {c n : ℕ} {e : ℤ}

/-- What a value is read as can be held. -/
theorem isHeld_of_decimalOf? (held : ∀ d, v = .decimal d → d.IsHeld)
    (h : decimalOf? v = .ok (some (.finite negative c e))) :
      (Decimal.finite negative c e).IsHeld := by
  cases v with
  | int i =>
    obtain ⟨s, written, h⟩ := Outcome.bind_eq_ok.mp h
    obtain ⟨rfl, rfl, rfl⟩ := Decimal.finite.inj (Option.some.inj (Except.ok.inj h))
    have short : digitCount i.natAbs ≤ numeralLimit := succeeds_intText_iff.mp ⟨s, written⟩
    have limit : (numeralLimit : ℤ) ≤ Decimal.greatestExponent := by decide
    exact Decimal.hold?_eq_some _ (by decide) (by omega)
  | float x =>
    have decimal : x.toDecimal = .finite negative c e := Option.some.inj (Except.ok.inj h)
    -- what is infinite or no number is turned into no finite decimal
    have finite : x.isFinite = true := by
      by_contra infinite
      rw [Bool.not_eq_true] at infinite
      rw [Binary64.toDecimal] at decimal
      split at decimal
      · cases decimal
      · simp [infinite] at decimal
    exact Decimal.isHeld_of_read? ((Decimal.read?_text finite).trans (congrArg some decimal))
  | decimal d => exact held _ (congrArg Value.decimal (Option.some.inj (Except.ok.inj h)))
  | str s => exact Decimal.isHeld_of_read? (Except.ok.inj h)
  | _ => cases h

/-! ### Whole numbers and others -/

/-- A whole number as it is written. -/
def wholeText (i : ℤ) : String := (if i < 0 then "-" else "") ++ groupedText i.natAbs

/-- A decimal that stands for a whole number is written as this number. -/
theorem number_of_whole (read : decimalOf? v = .ok (some (.finite negative c e)))
    (whole : Decimal.isWhole c e = true) (room : scaled c e < 10 ^ numeralLimit) :
    ∃ i : ℤ, (if negative then -scaled c e else scaled c e) = i ∧ number v = .ok (wholeText i) := by
  obtain ⟨n, found⟩ : ∃ n, wholeMagnitude? c e = some n := Option.ne_none_iff_exists'.mp fun none =>
    absurd ((Decimal.wholeMagnitude?_eq_none_iff c e).mp none) (not_le.mpr room)
  have value := Decimal.scaled_of_wholeMagnitude? whole found
  have zero : c = 0 ↔ n = 0 := by
    rw [← Nat.cast_eq_zero (R := ℚ) (n := n), ← value, scaled, mul_eq_zero, Nat.cast_eq_zero,
      or_iff_left (zpow_ne_zero e (by norm_num))]
  have written : number v = .ok ((if negative && c ≠ 0 then "-" else "") ++ groupedText n) := by
    rw [number, read]
    simp only [Outcome.ok_bind, whole, found, ↓reduceIte]
    rfl
  rw [written]
  cases negative with
  | true => exact ⟨-n, by simp [value], by simp [wholeText, zero, Nat.pos_iff_ne_zero]⟩
  | false => exact ⟨n, by simp [value], by simp [wholeText, not_lt.mpr (Int.natCast_nonneg n)]⟩

/-- A broken number is written with its digits as they are. -/
theorem number_of_broken (read : decimalOf? v = .ok (some (.finite negative c e)))
    (broken : Decimal.isWhole c e = false) :
    number v = .ok (String.ofList (Decimal.finiteText negative c e)) := by
  rw [number, read]
  simp only [Outcome.ok_bind, broken, Bool.false_eq_true, ↓reduceIte]
  rfl

/-- The sign and the digits of a whole number in groups spell the number. -/
theorem spelledValue?_wholeText {i : ℤ} (short : i.natAbs < 10 ^ numeralLimit) :
    spelledValue? (wholeText i) = some (i : ℚ) := by
  have text : (wholeText i).toList.filter (· ≠ ',') = Decimal.finiteText (i < 0) i.natAbs 0 := by
    rw [Decimal.finiteText_whole, wholeText, groupedText, String.toList_append,
      String.toList_ofList, List.filter_append, (isGrouping_grouped i.natAbs).digits]
    split <;> simp_all
  have held : (Decimal.finite (i < 0) i.natAbs 0).IsHeld := by
    have count : digitCount i.natAbs ≤ numeralLimit := (digitCount_le_iff (by decide)).mpr short
    have limit : (numeralLimit : ℤ) ≤ Decimal.greatestExponent := by decide
    exact Decimal.hold?_eq_some _ (by decide) (by omega)
  rw [spelledValue?, text, Decimal.read?_finiteText held, Option.bind_some]
  exact value?_ofInt i

/-- A decimal spells itself: there are no commas in it. -/
theorem spelledValue?_finiteText (held : (Decimal.finite negative c e).IsHeld) :
    ',' ∉ Decimal.finiteText negative c e ∧
      spelledValue? (String.ofList (Decimal.finiteText negative c e)) =
        (Decimal.finite negative c e).value? := by
  have no_comma : ',' ∉ Decimal.finiteText negative c e := fun h =>
    absurd (Decimal.mem_finiteText h) (by decide)
  refine ⟨no_comma, ?_⟩
  have kept : (Decimal.finiteText negative c e).filter (· ≠ ',') =
      Decimal.finiteText negative c e :=
    List.filter_eq_self.mpr fun x hx => by
      have other : x ≠ ',' := fun h => no_comma (h ▸ hx)
      simpa using other
  rw [spelledValue?, String.toList_ofList, kept, Decimal.read?_finiteText held, Option.bind_some]

/-! ### All numbers -/

/-- A number below the limit of numerals is spelled by its text without the commas; there are commas
only in whole numbers, which are written in lakhs and crores. -/
theorem number_readBack (finite : IsFiniteAmount v) (held : ∀ d, v = .decimal d → d.IsHeld) :
    ∃ x : ℚ, writtenValue? v = some x ∧ (|x| < 10 ^ numeralLimit →
      ∃ s, number v = .ok s ∧ spelledValue? s = some x ∧
        (∀ i : ℤ, x = i → ∃ G : List Char, IsGrouping G i.natAbs ∧
          s = (if i < 0 then "-" else "") ++ String.ofList G) ∧
        (',' ∈ s.toList → ∃ i : ℤ, x = i)) := by
  obtain ⟨negative, c, e, written, read⟩ := exists_decimal finite
  refine ⟨_, written, fun room => ?_⟩
  have magnitude : |if negative then -scaled c e else scaled c e| = scaled c e := by
    have nonneg := scaled_nonneg c e
    split
    · rw [abs_neg, abs_of_nonneg nonneg]
    · exact abs_of_nonneg nonneg
  rw [magnitude] at room
  obtain read | ⟨-, long, rfl⟩ := read
  · cases whole : Decimal.isWhole c e with
    | true =>
      obtain ⟨i, value, text⟩ := number_of_whole read whole room
      rw [value] at magnitude ⊢
      have short : i.natAbs < 10 ^ numeralLimit := by
        rw [← magnitude, ← Int.cast_abs, ← Int.natCast_natAbs, Int.cast_natCast] at room
        exact_mod_cast room
      refine ⟨_, text, spelledValue?_wholeText short, fun j hj => ?_, fun _ => ⟨i, rfl⟩⟩
      obtain rfl := Int.cast_injective hj
      exact ⟨_, isGrouping_grouped i.natAbs, rfl⟩
    | false =>
      obtain ⟨no_comma, spelled⟩ := spelledValue?_finiteText (isHeld_of_decimalOf? held read)
      refine ⟨_, number_of_broken read whole, spelled, fun i hi => ?_, fun comma => ?_⟩
      · -- the magnitude of a whole number is whole
        rw [hi, ← Int.cast_abs, ← Int.natCast_natAbs] at magnitude
        have := (Decimal.isWhole_iff c e).mpr ⟨i.natAbs, by rw [← magnitude, Int.cast_natCast]⟩
        rw [whole] at this
        cases this
      · exact absurd (by simpa using comma) no_comma
  · -- too long a numeral, so that there was no room for it
    have large : ((10 ^ numeralLimit : ℕ) : ℚ) ≤ c := by exact_mod_cast long
    rw [scaled, zpow_zero, mul_one] at room
    rw [Nat.cast_pow] at large
    exact absurd room (not_lt.mpr large)

/-- A whole number with a digit behind its point. -/
theorem tenths_readBack :
    IsFiniteAmount (.decimal (.finite true 1234567890 (-1))) ∧
      (∀ d, Value.decimal (.finite true 1234567890 (-1)) = .decimal d → d.IsHeld) ∧
      ∃ s, number (.decimal (.finite true 1234567890 (-1))) = .ok s ∧
      spelledValue? s = some (-123456789) ∧
        s = "-12,34,56,789" := by
  have held : ∀ d, Value.decimal (.finite true 1234567890 (-1)) = .decimal d → d.IsHeld := by
    rintro _ ⟨⟩
    exact (by decide : Decimal.hold? true 1234567890 (-1) = some (.finite true 1234567890 (-1)))
  have finite : IsFiniteAmount (.decimal (.finite true 1234567890 (-1))) := rfl
  refine ⟨finite, held, ?_⟩
  obtain ⟨x, written, readBack⟩ := number_readBack finite held
  have value : x = -123456789 := by
    rw [← Option.some.inj written]
    norm_num [scaled]
  have room : |x| < 10 ^ numeralLimit :=
    calc |x| < 10 ^ 9 := by rw [value]; norm_num
      _ ≤ 10 ^ numeralLimit := pow_le_pow_right₀ (by norm_num) (by decide)
  obtain ⟨s, text, spelled, -⟩ := readBack room
  have known : (number (.decimal (.finite true 1234567890 (-1)))).toOption =
      some "-12,34,56,789" := by
    decide +kernel
  rw [text] at known
  exact ⟨s, text, value ▸ spelled, Option.some.inj known⟩

end Format

end QuotationPress
