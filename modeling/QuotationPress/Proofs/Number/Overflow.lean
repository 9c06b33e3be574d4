import QuotationPress.Proofs.Number.Numeral
import QuotationPress.Proofs.Number.Rounding

/-!
# Whole numbers as binary floating point numbers

`isFinite_ofInt_iff` says from where on they are too large to have a finite value,
`exponent_ofRatio` bounds a rounded ratio by its exponent, and `natAbs_lt_of_whole?` bounds the
whole numbers that finite values stand for.
-/

namespace QuotationPress.Binary64

theorem not_isFinite_infinity (negative : Bool) : (infinity negative).isFinite = false := by
  simp [infinity, isFinite]

/-- A full significand has a finite value if its power, one more after a carry, is not beyond the
greatest. -/
theorem isFinite_pack_iff (negative : Bool) {m : ℕ} {q : ℤ} (full : fractionCount ≤ m)
    (least : -1074 ≤ q) : (pack negative m q).isFinite = true ↔
      q ≤ 971 ∧ (m = 2 * fractionCount → q ≤ 970) := by
  have inRange {q : ℤ} (low : -1074 ≤ q) (high : q ≤ 971) {f : Fin fractionCount} :
      (⟨negative, Fin.ofNat 2048 (q + 1075).toNat, f⟩ : Binary64).isFinite = true := by
    rw [isFinite, bne_iff_ne, Fin.val_ofNat, Nat.mod_eq_of_lt (by omega)]
    omega
  unfold pack
  rw [if_neg (by omega)]
  -- a significand that is rounded up to the power of two takes the next exponent
  by_cases carry : m = 2 * fractionCount
  · simp only [carry, ↓reduceIte, forall_const]
    split
    · next exceeds =>
      rw [not_isFinite_infinity]
      exact iff_of_false (by decide) (by omega)
    · next fits => exact iff_of_true (inRange (by omega) (by omega)) (by omega)
  · simp only [carry, ↓reduceIte, false_imp_iff, and_true]
    split
    · next exceeds =>
      rw [not_isFinite_infinity]
      exact iff_of_false (by decide) (by omega)
    · next fits => exact iff_of_true (inRange least (by omega)) (by omega)

/-- The least whole number that is too large: it lies halfway between the greatest finite value and
the power of two behind it. -/
def overflow : ℕ := (2 ^ 54 - 1) * 2 ^ 970

theorem overflow_pos : 0 < overflow := by
  unfold overflow
  positivity

/-- The first integer that overflows lies half a step above the greatest float. -/
theorem overflow_eq : (overflow : ℚ) = (2 ^ 53 - 1 / 2) * 2 ^ (971 : ℤ) := by
  have pow : (2 : ℚ) ^ (971 : ℤ) = 2 * 2 ^ 970 := by
    rw [← zpow_natCast, ← zpow_one_add₀ two_ne_zero]
    rfl
  rw [overflow, pow, Nat.cast_mul, Nat.cast_pow, ← mul_assoc]
  norm_num

/-- When a significand below `2 ^ 53` is rounded up to it. -/
theorem RoundsTo.carry_iff {m : ℕ} {w : ℚ} (h : RoundsTo m w) (below : w < 2 ^ 53) :
    m = 2 * fractionCount ↔ (2 : ℚ) ^ 53 - 1 / 2 ≤ w := by
  have carried : ((2 * fractionCount : ℕ) : ℚ) = 2 ^ 53 := by norm_num
  refine ⟨fun full => ?_, fun high => h.unique ⟨?_, ?_, fun _ => rfl, fun _ => rfl⟩⟩
  · rw [← carried, ← full]
    exact h.low
  · rwa [carried]
  · rw [carried]
    linarith only [below]

/-- Whether a number overflows, from the power of two that leads it. -/
theorem lt_overflow_iff {n : ℕ} {k : ℤ} (low : (2 : ℚ) ^ k ≤ n) (high : (n : ℚ) < 2 ^ (k + 1)) :
    n < overflow ↔ k - 52 ≤ 971 ∧ ((2 : ℚ) ^ 53 - 1 / 2 ≤ n / 2 ^ (k - 52) → k - 52 ≤ 970) := by
  rw [← Nat.cast_lt (α := ℚ), overflow_eq]
  obtain small | rfl | large := lt_trichotomy k 1023
  · refine iff_of_true (high.trans_le ?_) ⟨by omega, fun _ => by omega⟩
    calc (2 : ℚ) ^ (k + 1) ≤ 2 ^ (52 + 971 : ℤ) := zpow_le_zpow_right₀ one_le_two (by omega)
      _ = 2 ^ 52 * 2 ^ (971 : ℤ) := zpow_add₀ two_ne_zero ..
      _ ≤ (2 ^ 53 - 1 / 2) * 2 ^ (971 : ℤ) := by gcongr; norm_num
  · rw [← div_lt_iff₀ (by positivity), ← not_le]
    norm_num
  · refine iff_of_false (not_lt.mpr (le_trans ?_ low)) fun h => by omega
    calc (2 ^ 53 - 1 / 2) * (2 : ℚ) ^ (971 : ℤ) ≤ 2 ^ 53 * 2 ^ (971 : ℤ) := by gcongr; norm_num
      _ = 2 ^ (53 + 971 : ℤ) := (zpow_add₀ two_ne_zero ..).symm
      _ ≤ 2 ^ k := zpow_le_zpow_right₀ one_le_two (by omega)

/-- A ratio above the smallest normal value is rounded to a full significand. -/
theorem exists_pack (negative : Bool) {n d : ℕ} (hn : 0 < n) (hd : 0 < d)
    (normal : -1022 ≤ leadingBit n d) :
    ∃ m : ℕ, RoundsTo m (n / d / 2 ^ (leadingBit n d - 52)) ∧
      ofRatio negative n d = pack negative m (leadingBit n d - 52) := by
  have power : max (leadingBit n d - 52) (-1074) = leadingBit n d - 52 := by omega
  have rounded := roundsTo_halfEven (scaleDown n d (leadingBit n d - 52)).1
    (scaleDown_pos n hd (leadingBit n d - 52))
  rw [scaleDown_div] at rounded
  refine ⟨_, rounded, ?_⟩
  rw [ofRatio, if_neg hn.ne']
  simp only [power]

theorem leadingBit_one_nonneg {n : ℕ} (hn : 0 < n) : 0 ≤ leadingBit n 1 := by
  have one : (1 : ℚ) ≤ n := by exact_mod_cast hn
  have := le_leadingBit hn one_pos (q := 0) (k := 0) (by simpa using one)
  omega

/-- An integer is a finite float exactly if it is below this one. -/
theorem isFinite_ofRatio_iff (negative : Bool) (n : ℕ) :
    (ofRatio negative n 1).isFinite = true ↔ n < overflow := by
  obtain rfl | hn := Nat.eq_zero_or_pos n
  · exact iff_of_true rfl overflow_pos
  · have big := leadingBit_one_nonneg hn
    obtain ⟨m, rounded, packed⟩ := exists_pack negative hn one_pos (by omega)
    obtain ⟨full, below⟩ := significand_mem hn one_pos
    obtain ⟨low, high⟩ := leadingBit_spec hn one_pos
    rw [packed, isFinite_pack_iff negative (rounded.full full below).1 (by omega),
      rounded.carry_iff below]
    rw [Nat.cast_one, div_one] at low high ⊢
    exact (lt_overflow_iff low high).symm

theorem isFinite_ofInt_iff (i : ℤ) : (ofInt i).isFinite = true ↔ i.natAbs < overflow :=
  isFinite_ofRatio_iff _ _

/-! ### Exponents -/

/-- What is packed has the exponent of its power, or the next one if the significand is rounded
up. -/
theorem exponent_pack (negative : Bool) {m : ℕ} {q : ℤ} (full : fractionCount ≤ m)
    (least : -1074 ≤ q) (fits : q ≤ 970) :
    ((pack negative m q).exponent.val : ℤ) =
      if m = 2 * fractionCount then q + 1076 else q + 1075 := by
  unfold pack
  rw [if_neg (by omega)]
  by_cases carry : m = 2 * fractionCount
  · simp only [carry, ↓reduceIte]
    rw [if_neg (by omega), Fin.val_ofNat, Nat.mod_eq_of_lt (by omega)]
    omega
  · simp only [carry, ↓reduceIte]
    rw [if_neg (by omega), Fin.val_ofNat, Nat.mod_eq_of_lt (by omega)]
    omega

/-- The exponent of a rounded ratio is that of its leading digit, or one more after a carry. -/
theorem exponent_ofRatio (negative : Bool) {n d : ℕ} (hn : 0 < n) (hd : 0 < d)
    (normal : -1022 ≤ leadingBit n d) (fits : leadingBit n d ≤ 1022) :
    ((ofRatio negative n d).exponent.val : ℤ) = leadingBit n d + 1023 ∨
      ((ofRatio negative n d).exponent.val : ℤ) = leadingBit n d + 1024 := by
  obtain ⟨m, rounded, packed⟩ := exists_pack negative hn hd normal
  obtain ⟨full, below⟩ := significand_mem hn hd
  rw [packed, exponent_pack negative (rounded.full full below).1 (by omega) (by omega)]
  split
  · exact .inr (by omega)
  · exact .inl (by omega)

/-! ### Whole numbers among the values -/

/-- A power of two behind all finite values. -/
def limit : ℕ := 2 ^ 53 * 2 ^ 971

theorem pow_toNat_le {q : ℤ} {k : ℕ} (h : q ≤ k) : Nat.pow 2 q.toNat ≤ 2 ^ k :=
  Nat.pow_le_pow_right two_pos (by omega)

theorem pow_mul_pow_le {a b c : ℕ} (h : a + b ≤ c) : 2 ^ a * 2 ^ b ≤ 10 ^ c :=
  calc 2 ^ a * 2 ^ b = 2 ^ (a + b) := (pow_add ..).symm
    _ ≤ 10 ^ (a + b) := Nat.pow_le_pow_left (by decide) _
    _ ≤ 10 ^ c := Nat.pow_le_pow_right (by decide) h

/-- A finite value stays below the limit. -/
theorem significand_mul_lt_limit {x : Binary64} (h : x.isFinite) :
    x.significand * Nat.pow 2 x.power.toNat < limit :=
  calc x.significand * Nat.pow 2 x.power.toNat < 2 ^ 53 * Nat.pow 2 x.power.toNat :=
        Nat.mul_lt_mul_of_pos_right x.significand_lt (Nat.pow_pos two_pos)
    _ ≤ limit := Nat.mul_le_mul_left _ (pow_toNat_le (power_le h))

/-- So does the integer that a whole value is. -/
theorem natAbs_lt_of_whole? {x : Binary64} {i : ℤ} (h : x.whole? = some i) : i.natAbs < limit := by
  unfold whole? at h
  split at h
  · cases h
  · next finite =>
    have lt := significand_mul_lt_limit (by simpa using finite)
    have le : x.significand ≤ x.significand * Nat.pow 2 x.power.toNat :=
      Nat.le_mul_of_pos_right _ (Nat.pow_pos two_pos)
    have signed (n : ℕ) : (if x.negative then -(n : ℤ) else n).natAbs = n := by
      split <;> simp
    by_cases whole : 0 ≤ x.power
    · simp only [whole, ↓reduceIte] at h
      obtain rfl := Option.some.inj h
      rwa [signed]
    · by_cases divides : x.significand % Nat.pow 2 x.power.natAbs = 0
      · simp only [whole, divides, ↓reduceIte] at h
        obtain rfl := Option.some.inj h
        rw [signed]
        exact (Nat.div_le_self ..).trans_lt (le.trans_lt lt)
      · simp only [whole, divides, ↓reduceIte] at h
        exact nomatch h

/-- No finite value stands for a whole number whose numeral is too long. -/
theorem digitCount_of_whole? {x : Binary64} {i : ℤ} (h : x.whole? = some i) :
    digitCount i.natAbs ≤ numeralLimit :=
  (digitCount_le_iff (by decide)).mpr
    ((natAbs_lt_of_whole? h).trans_le (pow_mul_pow_le (by decide)))

end QuotationPress.Binary64
