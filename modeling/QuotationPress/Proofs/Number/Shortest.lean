import Mathlib.Data.Nat.Cast.Order.Field
import QuotationPress.Number.FloatText
import QuotationPress.Proofs.Number.Numeral
import QuotationPress.Proofs.Number.Rounding

/-!
# The shortest digits of a binary floating point number read back as the number

`shortest_nearest` says that there are such digits, and `ofScaled_eq` that any digits and scale
whose number rounds to the value are read as the value.
-/

namespace QuotationPress.Binary64

/-! ### Decimal ratios -/

/-- The number `k · 10 ^ p`. -/
def scaled (k : ℕ) (p : ℤ) : ℚ := k * 10 ^ p

theorem scaled_of_nonneg (k : ℕ) {p : ℤ} (h : 0 ≤ p) :
    scaled k p = ((k * Nat.pow 10 p.toNat : ℕ) : ℚ) / (1 : ℕ) := by
  obtain ⟨n, rfl⟩ := Int.eq_ofNat_of_zero_le h
  simp [scaled, Nat.pow_eq]

theorem scaled_of_neg (k : ℕ) {p : ℤ} (h : ¬ 0 ≤ p) :
    scaled k p = (k : ℚ) / (Nat.pow 10 p.natAbs : ℕ) := by
  obtain ⟨n, hn⟩ := Int.eq_ofNat_of_zero_le (by omega : 0 ≤ -p)
  obtain rfl : p = -n := by omega
  simp [scaled, Nat.pow_eq, div_eq_mul_inv]

/-- A zero at the end is a step of the exponent. -/
theorem scaled_ten_mul (k : ℕ) (p : ℤ) : scaled (10 * k) p = scaled k (p + 1) := by
  rw [scaled, scaled, zpow_add_one₀ (by norm_num)]
  push_cast
  ring

theorem scaled_mul_pow (k n : ℕ) (p : ℤ) : scaled (k * 10 ^ n) p = scaled k (p + n) := by
  rw [scaled, scaled, zpow_add₀ (by norm_num), zpow_natCast]
  push_cast
  ring

/-! ### The test for reading back -/

/-- The interval of a value in quarters of its last place, as the test counts. -/
theorem lowEnd_eq {x : Binary64} (h0 : x.isZero = false) :
    ((4 * x.significand - (if x.fraction.val = 0 && 1 < x.exponent.val then 1 else 2) : ℕ) : ℚ)
      = 4 * (x.significand - x.reachBelow) := by
  have := significand_pos h0
  unfold reachBelow
  by_cases h : x.fraction.val = 0 ∧ 1 < x.exponent.val
  · rw [if_pos (by simpa using h), if_pos h, Nat.cast_sub (by omega)]
    push_cast
    ring
  · rw [if_neg (by simpa using h), if_neg h, Nat.cast_sub (by omega)]
    push_cast
    ring

theorem nearest_of_lt {x : Binary64} {v : ℚ} (low : x.significand - x.reachBelow < v / 2 ^ x.power)
    (high : v / 2 ^ x.power < x.significand + 1 / 2) : Nearest x v :=
  ⟨low.le, high.le, fun e => absurd e low.ne', fun e => absurd e high.ne⟩

/-- The test by integers asks whether the decimal is next to the float. -/
theorem readsBack_iff {x : Binary64} (h0 : x.isZero = false) (k : ℕ) (p : ℤ) :
    x.readsBack k p = true ↔ Nearest x (scaled k p) := by
  have ratio : (((if 0 ≤ p then k * Nat.pow 10 p.toNat else k : ℕ) : ℚ)
      / (if 0 ≤ p then 1 else Nat.pow 10 p.natAbs : ℕ)) = scaled k p := by
    split
    · next h => exact (scaled_of_nonneg k h).symm
    · next h => exact (scaled_of_neg k h).symm
  have pos : 0 < (if 0 ≤ p then 1 else Nat.pow 10 p.natAbs : ℕ) := by
    split
    · exact one_pos
    · exact Nat.pow_pos (by decide)
  simp only [readsBack]
  generalize (if 0 ≤ p then k * Nat.pow 10 p.toNat else k : ℕ) = n at *
  generalize (if 0 ≤ p then 1 else Nat.pow 10 p.natAbs : ℕ) = d at *
  -- the test counts in quarters of the last place, so that the ends are whole
  have quarters : ((scaleDown n d (x.power - 2)).1 : ℚ) / (scaleDown n d (x.power - 2)).2
      = 4 * (scaled k p / 2 ^ x.power) := by
    rw [scaleDown_div, ratio, zpow_sub₀ two_ne_zero]
    field_simp
    norm_num
  have bound : (0 : ℚ) < (scaleDown n d (x.power - 2)).2 := by exact_mod_cast scaleDown_pos n pos _
  have lowEnd := lowEnd_eq h0
  generalize
    4 * x.significand - (if x.fraction.val = 0 && 1 < x.exponent.val then 1 else 2) = low at *
  generalize (scaleDown n d (x.power - 2)).1 = a at *
  generalize (scaleDown n d (x.power - 2)).2 = b at *
  have le_low : low * b ≤ a ↔ (x.significand : ℚ) - x.reachBelow ≤ scaled k p / 2 ^ x.power := by
    rw [← Nat.cast_le (α := ℚ), Nat.cast_mul, ← le_div_iff₀ bound, quarters, lowEnd]
    exact mul_le_mul_iff_of_pos_left (by norm_num)
  have lt_low : low * b < a ↔ (x.significand : ℚ) - x.reachBelow < scaled k p / 2 ^ x.power := by
    rw [← Nat.cast_lt (α := ℚ), Nat.cast_mul, ← lt_div_iff₀ bound, quarters, lowEnd]
    exact mul_lt_mul_iff_of_pos_left (by norm_num)
  have le_high : a ≤ (4 * x.significand + 2) * b ↔
      scaled k p / 2 ^ x.power ≤ (x.significand : ℚ) + 1 / 2 := by
    rw [← Nat.cast_le (α := ℚ), Nat.cast_mul, ← div_le_iff₀ bound, quarters]
    push_cast
    constructor <;> intro h <;> linarith
  have lt_high : a < (4 * x.significand + 2) * b ↔
      scaled k p / 2 ^ x.power < (x.significand : ℚ) + 1 / 2 := by
    rw [← Nat.cast_lt (α := ℚ), Nat.cast_mul, ← div_lt_iff₀ bound, quarters]
    push_cast
    constructor <;> intro h <;> linarith
  split
  · next even =>
    rw [Bool.and_eq_true, decide_eq_true_iff, decide_eq_true_iff, le_low, le_high]
    exact ⟨fun ⟨l, h⟩ => ⟨l, h, fun _ => even, fun _ => even⟩, fun h => ⟨h.low, h.high⟩⟩
  · next odd =>
    rw [Bool.and_eq_true, decide_eq_true_iff, decide_eq_true_iff, lt_low, lt_high]
    refine ⟨fun ⟨l, h⟩ => nearest_of_lt l h, fun h => ⟨?_, ?_⟩⟩
    · exact lt_of_le_of_ne h.low fun e => odd (h.even_low e.symm)
    · exact lt_of_le_of_ne h.high fun e => odd (h.even_high e)

/-! ### The digits found -/

/-- A hit on a grid reads back and is not zero. -/
theorem gridHit?_eq_some {x : Binary64} {p : ℤ} {k : ℕ} (h : x.gridHit? p = some k) :
    x.readsBack k p = true ∧ 0 < k := by
  simp only [gridHit?] at h
  generalize (scaleDownTen x.ratio.1 x.ratio.2 p).1 / (scaleDownTen x.ratio.1 x.ratio.2 p).2 =
    low at *
  split at h
  · next hlow hnext =>
    rw [Bool.and_eq_true, bne_iff_ne] at hlow
    split_ifs at h <;> obtain rfl := Option.some.inj h
    · exact ⟨hlow.1, Nat.pos_of_ne_zero hlow.2⟩
    · exact ⟨hnext, Nat.succ_pos low⟩
    · exact ⟨hlow.1, Nat.pos_of_ne_zero hlow.2⟩
    · exact ⟨hnext, Nat.succ_pos low⟩
  · next hlow _ =>
    rw [Bool.and_eq_true, bne_iff_ne] at hlow
    obtain rfl := Option.some.inj h
    exact ⟨hlow.1, Nat.pos_of_ne_zero hlow.2⟩
  · next hnext =>
    obtain rfl := Option.some.inj h
    exact ⟨hnext, Nat.succ_pos low⟩
  · cases h

theorem ratio_pos (x : Binary64) : 0 < x.ratio.2 := by
  unfold ratio
  split
  · exact one_pos
  · exact Nat.pow_pos two_pos

/-- The ratio of a float is its value. -/
theorem ratio_div (x : Binary64) : (x.ratio.1 : ℚ) / x.ratio.2 = x.significand * 2 ^ x.power := by
  unfold ratio
  split
  · next h =>
    obtain ⟨n, hn⟩ := Int.eq_ofNat_of_zero_le h
    simp [hn, Nat.pow_eq]
  · next h =>
    obtain ⟨n, hn⟩ := Int.eq_ofNat_of_zero_le (by omega : 0 ≤ -x.power)
    obtain hp : x.power = -n := by omega
    simp [hp, Nat.pow_eq, div_eq_mul_inv]

theorem scaleDownTen_pos (n : ℕ) {d : ℕ} (hd : 0 < d) (p : ℤ) : 0 < (scaleDownTen n d p).2 := by
  unfold scaleDownTen
  split
  · exact Nat.mul_pos hd (Nat.pow_pos (by decide))
  · exact hd

theorem scaleDownTen_div (n d : ℕ) (p : ℤ) :
    ((scaleDownTen n d p).1 : ℚ) / (scaleDownTen n d p).2 = n / d / 10 ^ p := by
  unfold scaleDownTen
  split
  · next h =>
    obtain ⟨k, rfl⟩ := Int.eq_ofNat_of_zero_le h
    simp [Nat.pow_eq, div_div]
  · next h =>
    obtain ⟨k, hk⟩ := Int.eq_ofNat_of_zero_le (by omega : 0 ≤ -p)
    obtain rfl : p = -k := by omega
    simp [Nat.pow_eq, div_mul_eq_mul_div]

theorem pow_ten_pos (k : ℕ) : 0 < Nat.pow 10 k := Nat.pow_pos (by decide)

theorem cast_pow_ten (k : ℕ) : ((Nat.pow 10 k : ℕ) : ℚ) = 10 ^ k := by
  rw [Nat.pow_eq]
  push_cast
  rfl

theorem two_pow_le_ten_pow (k : ℕ) : 2 ^ (3 * k) ≤ Nat.pow 10 k := by
  rw [pow_mul]
  exact Nat.pow_le_pow_left (by decide) k

/-- No value but zero is below the ratio that the search of the leading digit starts from. -/
theorem ratio_lower {x : Binary64} (h0 : x.isZero = false) (k : ℕ) (hk : 1074 ≤ 3 * k) :
    x.ratio.2 ≤ x.ratio.1 * Nat.pow 10 k := by
  have sig := significand_pos h0
  have least := x.least_power_le
  unfold ratio
  split
  · exact Nat.le_trans (Nat.mul_pos sig (Nat.pow_pos two_pos))
      (Nat.le_mul_of_pos_right _ (pow_ten_pos k))
  · calc 2 ^ x.power.natAbs ≤ 2 ^ (3 * k) := Nat.pow_le_pow_right two_pos (by omega)
      _ ≤ Nat.pow 10 k := two_pow_le_ten_pow k
      _ ≤ x.significand * Nat.pow 10 k := Nat.le_mul_of_pos_left (Nat.pow 10 k) sig

/-- The leading digit is not above the ratio. -/
theorem leadingDigit_le {n d : ℕ} (hd : 0 < d) (lower : ∀ k, 1074 ≤ 3 * k → d ≤ n * Nat.pow 10 k) :
    (10 : ℚ) ^ leadingDigit n d ≤ n / d := by
  have pos := Nat.div_pos (lower 400 (by decide)) hd
  have digits := pow_le_of_lt_digitCount pos (Nat.sub_lt (digitCount_pos _) one_pos)
  have count := digitCount_pos (n * Nat.pow 10 400 / d)
  unfold leadingDigit
  generalize digitCount (n * Nat.pow 10 400 / d) = k at *
  have cast : (10 : ℚ) ^ (k - 1) ≤ n * 10 ^ 400 / d := by
    calc (10 : ℚ) ^ (k - 1) ≤ ((n * Nat.pow 10 400 / d : ℕ) : ℚ) := by exact_mod_cast digits
      _ ≤ ((n * Nat.pow 10 400 : ℕ) : ℚ) / d := Nat.cast_div_le
      _ = n * 10 ^ 400 / d := by simp only [Nat.cast_mul, cast_pow_ten]
  have exponent : ((k : ℤ) - 401) = ((k - 1 : ℕ) : ℤ) - (400 : ℕ) := by omega
  rw [exponent, zpow_sub₀ (by norm_num), zpow_natCast, zpow_natCast, div_le_iff₀ (by positivity)]
  calc (10 : ℚ) ^ (k - 1) ≤ n * 10 ^ 400 / d := cast
    _ = n / d * 10 ^ 400 := by rw [div_mul_eq_mul_div]

/-- Where the values below lie twice as close, the value is the least of its power. -/
theorem significand_of_reachBelow {x : Binary64} (h : x.reachBelow ≠ 1 / 2) :
    x.reachBelow = 1 / 4 ∧ (x.significand : ℚ) = 2 ^ 52 := by
  unfold reachBelow at h ⊢
  split_ifs at h ⊢ with edge
  · refine ⟨rfl, ?_⟩
    rw [significand, if_neg (by omega), edge.1]
    norm_num
  · exact absurd rfl h

/-- Seventeen digits are enough: the step of the grid is narrower than the interval of the value. -/
theorem step_lt {x : Binary64} {step : ℚ} (fine : step * 10 ^ 16 ≤ x.significand) :
    step < 1 / 2 + x.reachBelow := by
  have sig : (x.significand : ℚ) + 1 ≤ 2 ^ 53 := by exact_mod_cast x.significand_lt
  by_cases half : x.reachBelow = 1 / 2
  · rw [half]
    linarith
  · obtain ⟨quarter, least⟩ := significand_of_reachBelow half
    rw [quarter]
    rw [least] at fine
    linarith

/-- On a fine grid one of the two points around a float is next to it. -/
theorem nearest_neighbour {x : Binary64} {g : ℚ} (low : ℕ)
    (fine : g * 10 ^ 16 ≤ x.significand * 2 ^ x.power)
    (lower : low * g ≤ x.significand * 2 ^ x.power)
    (upper : x.significand * 2 ^ x.power < (low + 1) * g) :
    Nearest x (low * g) ∨ Nearest x ((low + 1) * g) := by
  have unit_pos : (0 : ℚ) < 2 ^ x.power := by positivity
  rw [← div_le_iff₀ unit_pos, mul_div_right_comm] at fine
  rw [← div_le_iff₀ unit_pos] at lower
  rw [← lt_div_iff₀ unit_pos] at upper
  have width := step_lt fine
  have step : (low + 1) * g / 2 ^ x.power = low * g / 2 ^ x.power + g / 2 ^ x.power := by ring
  by_cases inside : x.significand - x.reachBelow < low * g / 2 ^ x.power
  · exact .inl (nearest_of_lt inside (by linarith))
  · refine .inr (nearest_of_lt ?_ ?_)
    · linarith [x.reachBelow_nonneg]
    · rw [step]
      linarith

/-- On a grid of seventeen digits one of the two neighbours of the value reads back. -/
theorem gridHit?_isSome {x : Binary64} (h0 : x.isZero = false) {p : ℤ}
    (fine : (10 : ℚ) ^ p * 10 ^ 16 ≤ x.significand * 2 ^ x.power) :
      (x.gridHit? p).isSome = true := by
  have grid_pos : (0 : ℚ) < 10 ^ p := by positivity
  have s_pos := scaleDownTen_pos x.ratio.1 x.ratio_pos p
  have s_div := scaleDownTen_div x.ratio.1 x.ratio.2 p
  rw [ratio_div] at s_div
  unfold gridHit?
  simp only
  generalize (scaleDownTen x.ratio.1 x.ratio.2 p).1 = a at *
  generalize (scaleDownTen x.ratio.1 x.ratio.2 p).2 = b at *
  have lower : ((a / b : ℕ) : ℚ) * 10 ^ p ≤ x.significand * 2 ^ x.power := by
    rw [← le_div_iff₀ grid_pos, ← s_div]
    exact Nat.cast_div_le
  have upper : x.significand * 2 ^ x.power < ((a / b : ℕ) + 1 : ℚ) * 10 ^ p := by
    rw [← div_lt_iff₀ grid_pos, ← s_div, div_lt_iff₀ (by exact_mod_cast s_pos)]
    have : a < (a / b + 1) * b := by
      rw [add_mul, one_mul]
      exact Nat.lt_div_mul_add s_pos
    exact_mod_cast this
  -- the float is far above the grid's step
  have large : (a / b : ℕ) ≠ 0 := by
    intro zero
    rw [zero] at upper
    norm_num at upper
    linarith
  generalize a / b = low at *
  obtain near | near := nearest_neighbour low fine lower upper
  · rw [(readsBack_iff h0 low p).mpr near, bne_iff_ne.mpr large]
    cases x.readsBack (low + 1) p <;> rfl
  · have near : Nearest x (scaled (low + 1) p) := by simpa [scaled] using near
    rw [(readsBack_iff h0 (low + 1) p).mpr near]
    cases x.readsBack low p && low != 0 <;> rfl

/-- The shortest digits stand for a number that rounds to the value. -/
theorem shortest_nearest {x : Binary64} (h0 : x.isZero = false) :
    0 < x.shortest.1 ∧ Nearest x (scaled x.shortest.1 x.shortest.2) := by
  have digit_le := leadingDigit_le x.ratio_pos (ratio_lower h0)
  rw [ratio_div] at digit_le
  unfold shortest
  simp only
  generalize leadingDigit x.ratio.1 x.ratio.2 = top at *
  cases found : (List.range 17).findSome? fun (i : ℕ) =>
      (x.gridHit? (top - i)).map fun k => (k, top - (i : ℤ)) with
  | none =>
    -- the last grid has a hit
    have none16 := Option.map_eq_none_iff.mp (List.findSome?_eq_none_iff.mp found 16 (by simp))
    have fine : (10 : ℚ) ^ (top - (16 : ℕ)) * 10 ^ 16 ≤ x.significand * 2 ^ x.power := by
      rw [← zpow_natCast, ← zpow_add₀ (by norm_num), sub_add_cancel]
      exact digit_le
    have some16 := gridHit?_isSome h0 fine
    rw [none16] at some16
    cases some16
  | some hit =>
    obtain ⟨i, -, h⟩ := List.exists_of_findSome?_eq_some found
    obtain ⟨k, hk, rfl⟩ := Option.map_eq_some_iff.mp h
    obtain ⟨back, pos⟩ := gridHit?_eq_some hk
    have near := (readsBack_iff h0 k _).mp back
    simp only
    split
    · -- zeros at the end are moved to the exponent
      next tens =>
      refine ⟨by simp only; omega, ?_⟩
      have hk : 10 * (k / 10) = k := by omega
      rwa [← scaled_ten_mul, hk]
    · exact ⟨pos, near⟩

/-- The scale of the shortest digits is not far below the leading digit of the least value. -/
theorem le_shortest_scale (x : Binary64) : -416 ≤ x.shortest.2 := by
  unfold shortest leadingDigit
  simp only
  split
  · next k p found =>
    obtain ⟨i, inside, h⟩ := List.exists_of_findSome?_eq_some found
    obtain ⟨hit, -, same⟩ := Option.map_eq_some_iff.mp h
    obtain ⟨-, rfl⟩ := Prod.mk.inj same
    have count := digitCount_pos (x.ratio.1 * Nat.pow 10 400 / x.ratio.2)
    have grid : i < 17 := List.mem_range.mp inside
    split <;> simp only <;> omega
  · simp

/-! ### Reading digits -/

/-- A value next to a float is not much smaller than the least of them. -/
theorem Nearest.lower {x : Binary64} {v : ℚ} (h : Nearest x v) (h0 : x.isZero = false) :
    (2 : ℚ) ^ (-1075 : ℤ) ≤ v := by
  have sig : (1 : ℚ) ≤ x.significand := by exact_mod_cast significand_pos h0
  have half : 1 / 2 ≤ v / 2 ^ x.power := by linarith only [h.low, x.reachBelow_le, sig]
  rw [le_div_iff₀ (by positivity)] at half
  refine le_trans ?_ half
  rw [show (-1075 : ℤ) = -1074 - 1 by norm_num, zpow_sub_one₀ two_ne_zero]
  have : (2 : ℚ) ^ (-1074 : ℤ) ≤ 2 ^ x.power := zpow_le_zpow_right₀ one_le_two x.least_power_le
  linarith

/-- A value next to a finite float is below the power of two above the greatest. -/
theorem Nearest.upper {x : Binary64} {v : ℚ} (h : Nearest x v) (hx : x.isFinite) :
    v < 2 ^ (1024 : ℤ) := by
  have below := h.lt
  rw [div_lt_iff₀ (by positivity), ← zpow_natCast, ← zpow_add₀ two_ne_zero] at below
  have power := power_le hx
  exact below.trans_le (zpow_le_zpow_right₀ one_le_two (by omega))

theorem binary_lt_decimal : (2 : ℚ) ^ (1024 : ℤ) < 10 ^ (310 : ℤ) := by
  rw [show (1024 : ℤ) = (256 * 4 : ℕ) by norm_num, show (310 : ℤ) = (155 * 2 : ℕ) by norm_num,
    zpow_natCast, zpow_natCast, pow_mul, pow_mul]
  norm_num

theorem decimal_lt_binary : (10 : ℚ) ^ (-330 : ℤ) < 2 ^ (-1075 : ℤ) := by
  rw [zpow_neg, zpow_neg]
  refine inv_strictAnti₀ (by positivity) ?_
  rw [show (1075 : ℤ) = (215 * 5 : ℕ) by norm_num, show (330 : ℤ) = (165 * 2 : ℕ) by norm_num,
    zpow_natCast, zpow_natCast, pow_mul, pow_mul]
  norm_num

/-- A number lies between the powers of ten that its digits and its scale say. -/
theorem scaled_mem_pow {c : ℕ} (hc : 0 < c) (e : ℤ) :
    (10 : ℚ) ^ (e + digitCount c - 1) ≤ scaled c e ∧ scaled c e < 10 ^ (e + digitCount c) := by
  have count := digitCount_pos c
  constructor
  · have digits := pow_le_of_lt_digitCount hc (Nat.sub_lt count one_pos)
    have split : (e + digitCount c - 1 : ℤ) = ((digitCount c - 1 : ℕ) : ℤ) + e := by omega
    rw [split, zpow_add₀ (by norm_num), zpow_natCast, scaled]
    gcongr
    exact_mod_cast digits
  · rw [add_comm, zpow_add₀ (by norm_num), zpow_natCast, scaled]
    gcongr
    exact_mod_cast lt_pow_digitCount c

/-- Zero is next to no float but zero. -/
theorem Nearest.coefficient_pos {x : Binary64} (h0 : x.isZero = false) {c : ℕ} {e : ℤ}
    (h : Nearest x (scaled c e)) : 0 < c := by
  have pos := h.pos h0
  refine Nat.pos_of_ne_zero fun zero => ?_
  simp [zero, scaled] at pos

/-- A number that rounds to a finite value is neither too large nor too small to be computed. -/
theorem Nearest.digitCount_mem {x : Binary64} (hx : x.isFinite) (h0 : x.isZero = false) {c : ℕ}
    {e : ℤ} (h : Nearest x (scaled c e)) : -330 ≤ e + digitCount c ∧ e + digitCount c ≤ 310 := by
  obtain ⟨low, high⟩ := scaled_mem_pow (h.coefficient_pos h0) e
  constructor
  · refine not_lt.mp fun small => decimal_lt_binary.not_ge ?_
    exact (h.lower h0).trans (high.le.trans (zpow_le_zpow_right₀ (by norm_num) small.le))
  · refine not_lt.mp fun large => binary_lt_decimal.not_ge ?_
    exact (zpow_le_zpow_right₀ (by norm_num) (by omega)).trans (low.trans (h.upper hx).le)

/-- Digits whose number rounds to a value are read as the value. -/
theorem ofScaled_eq {x : Binary64} (hx : x.isFinite) (h0 : x.isZero = false) {c : ℕ} {e : ℤ}
    (h : Nearest x (scaled c e)) : ofScaled x.negative c e = x := by
  obtain ⟨not_small, not_large⟩ := h.digitCount_mem hx h0
  rw [ofScaled, if_neg (h.coefficient_pos h0).ne', if_neg (not_lt.mpr not_large),
    if_neg (not_lt.mpr not_small)]
  split
  · next whole =>
    rw [scaled_of_nonneg c whole] at h
    exact ofRatio_eq hx h0 one_pos h
  · next part =>
    rw [scaled_of_neg c part] at h
    exact ofRatio_eq hx h0 (pow_ten_pos _) h

end QuotationPress.Binary64
