import Mathlib.Algebra.Order.Field.Power
import Mathlib.Algebra.Order.Field.Rat
import Mathlib.Tactic.FieldSimp
import Mathlib.Tactic.Linarith
import Mathlib.Tactic.NormNum
import Mathlib.Tactic.Positivity
import Mathlib.Tactic.Ring
import QuotationPress.Number.Binary64

/-!
# Rounding to a binary floating point number, over the rational numbers

`Nearest x v` says that `v` lies in the interval of magnitudes that round to the finite value `x`,
and `ofRatio_eq` says that a ratio in that interval is rounded to `x`.
-/

namespace QuotationPress.Binary64

/-! ### Halves to even -/

/-- `m` is the whole number nearest to `w`, and an even one when there are two. -/
structure RoundsTo (m : ℕ) (w : ℚ) : Prop where
  low : (m : ℚ) - 1 / 2 ≤ w
  high : w ≤ (m : ℚ) + 1 / 2
  even_low : w = (m : ℚ) - 1 / 2 → m % 2 = 0
  even_high : w = (m : ℚ) + 1 / 2 → m % 2 = 0

theorem RoundsTo.le {m k : ℕ} {w : ℚ} (hm : RoundsTo m w) (hk : RoundsTo k w) : m ≤ k := by
  by_contra h
  have above : (k : ℚ) + 1 ≤ m := by exact_mod_cast Nat.lt_of_not_le h
  have below : (m : ℚ) ≤ k + 1 := by linarith [hm.low, hk.high]
  have same : (m : ℚ) = k + 1 := le_antisymm below above
  have even_m := hm.even_low (by linarith [hm.low, hk.high])
  have even_k := hk.even_high (by linarith [hm.low, hk.high])
  have : m = k + 1 := by exact_mod_cast same
  omega

theorem RoundsTo.unique {m k : ℕ} {w : ℚ} (hm : RoundsTo m w) (hk : RoundsTo k w) : m = k :=
  le_antisymm (hm.le hk) (hk.le hm)

theorem roundsTo_twice {m : ℕ} {w : ℚ} (low : (m : ℚ) - 1 / 4 ≤ w) (high : w < m) :
    RoundsTo (2 * m) (w * 2) := by
  refine ⟨?_, ?_, fun _ => by omega, fun _ => by omega⟩ <;> push_cast <;> linarith

theorem div_eq_add_mod_div (n : ℕ) {d : ℕ} (hd : 0 < d) :
    (n : ℚ) / d = (n / d : ℕ) + ((n % d : ℕ) : ℚ) / d := by
  have hd' : (d : ℚ) ≠ 0 := by exact_mod_cast hd.ne'
  have split : (n : ℚ) = d * (n / d : ℕ) + (n % d : ℕ) := by
    exact_mod_cast (Nat.div_add_mod n d).symm
  rw [← mul_right_inj' hd', mul_add, mul_div_cancel₀ _ hd', mul_div_cancel₀ _ hd', ← split]

/-- Division with ties to even rounds the ratio. -/
theorem roundsTo_halfEven (n : ℕ) {d : ℕ} (hd : 0 < d) : RoundsTo (halfEven n d) (n / d) := by
  have hd' : (0 : ℚ) < d := by exact_mod_cast hd
  have part_nonneg : (0 : ℚ) ≤ ((n % d : ℕ) : ℚ) / d := by positivity
  have part_lt : ((n % d : ℕ) : ℚ) / d < 1 := by
    rw [div_lt_one hd']
    exact_mod_cast Nat.mod_lt n hd
  rw [div_eq_add_mod_div n hd]
  simp only [halfEven]
  -- below the half, above it, or a tie with an even or an odd quotient
  split_ifs with below above even
  · have : ((n % d : ℕ) : ℚ) / d < 1 / 2 := by
      rw [div_lt_div_iff₀ hd' two_pos]
      exact_mod_cast (by omega : n % d * 2 < 1 * d)
    constructor <;> (try intro h) <;> linarith
  · have : 1 / 2 < ((n % d : ℕ) : ℚ) / d := by
      rw [div_lt_div_iff₀ two_pos hd']
      exact_mod_cast (by omega : 1 * d < n % d * 2)
    constructor <;> push_cast <;> (try intro h) <;> linarith
  all_goals
    have half : ((n % d : ℕ) : ℚ) / d = 1 / 2 := by
      rw [div_eq_div_iff hd'.ne' two_ne_zero]
      exact_mod_cast (by omega : n % d * 2 = 1 * d)
  · constructor <;> first | exact fun _ => even | linarith
  · have : (n / d + 1) % 2 = 0 := by omega
    constructor <;> first | exact fun _ => this | (push_cast; linarith)

/-! ### Scales -/

theorem scaleDown_pos (n : ℕ) {d : ℕ} (hd : 0 < d) (q : ℤ) : 0 < (scaleDown n d q).2 := by
  unfold scaleDown
  split
  · exact Nat.mul_pos hd (Nat.pow_pos two_pos)
  · exact hd

/-- Scaling divides the ratio by the power of two. -/
theorem scaleDown_div (n d : ℕ) (q : ℤ) :
    ((scaleDown n d q).1 : ℚ) / (scaleDown n d q).2 = n / d / 2 ^ q := by
  unfold scaleDown
  split
  · next h =>
    obtain ⟨k, rfl⟩ := Int.eq_ofNat_of_zero_le h
    simp [Nat.pow_eq, div_div]
  · next h =>
    obtain ⟨k, hk⟩ := Int.eq_ofNat_of_zero_le (by omega : 0 ≤ -q)
    obtain rfl : q = -k := by omega
    simp [Nat.pow_eq, div_mul_eq_mul_div]

theorem one_le_scaleDown_iff (n : ℕ) {d : ℕ} (hd : 0 < d) (q : ℤ) :
    (scaleDown n d q).2 ≤ (scaleDown n d q).1 ↔ (2 : ℚ) ^ q ≤ n / d := by
  have pos : (0 : ℚ) < (scaleDown n d q).2 := by exact_mod_cast scaleDown_pos n hd q
  rw [← Nat.cast_le (α := ℚ), ← one_le_div pos, scaleDown_div, one_le_div (by positivity)]

/-- The leading bit is the highest power of two that is not above the ratio. -/
theorem leadingBit_spec {n d : ℕ} (hn : 0 < n) (hd : 0 < d) :
    (2 : ℚ) ^ leadingBit n d ≤ n / d ∧ (n : ℚ) / d < 2 ^ (leadingBit n d + 1) := by
  have hd' : (0 : ℚ) < d := by exact_mod_cast hd
  have n_low : (2 : ℚ) ^ (n.log2 : ℤ) ≤ n := by exact_mod_cast Nat.log2_self_le hn.ne'
  have n_high : (n : ℚ) < 2 ^ ((n.log2 : ℤ) + 1) := by exact_mod_cast Nat.lt_log2_self
  have d_low : (2 : ℚ) ^ (d.log2 : ℤ) ≤ d := by exact_mod_cast Nat.log2_self_le hd.ne'
  have d_high : (d : ℚ) < 2 ^ ((d.log2 : ℤ) + 1) := by exact_mod_cast Nat.lt_log2_self
  -- by the leading bits of both sides, up to one
  have low : (2 : ℚ) ^ ((n.log2 : ℤ) - d.log2 - 1) ≤ n / d := by
    rw [le_div_iff₀ hd']
    calc (2 : ℚ) ^ ((n.log2 : ℤ) - d.log2 - 1) * d
        ≤ 2 ^ ((n.log2 : ℤ) - d.log2 - 1) * 2 ^ ((d.log2 : ℤ) + 1) := by gcongr
      _ = 2 ^ (n.log2 : ℤ) := by rw [← zpow_add₀ two_ne_zero]; congr 1; ring
      _ ≤ n := n_low
  have high : (n : ℚ) / d < 2 ^ ((n.log2 : ℤ) - d.log2 + 1) := by
    rw [div_lt_iff₀ hd']
    calc (n : ℚ) < 2 ^ ((n.log2 : ℤ) + 1) := n_high
      _ = 2 ^ ((n.log2 : ℤ) - d.log2 + 1) * 2 ^ (d.log2 : ℤ) := by
        rw [← zpow_add₀ two_ne_zero]; congr 1; ring
      _ ≤ 2 ^ ((n.log2 : ℤ) - d.log2 + 1) * d := by gcongr
  simp only [leadingBit, one_le_scaleDown_iff n hd]
  split
  · next h => exact ⟨h, high⟩
  · next h =>
    refine ⟨low, ?_⟩
    rw [sub_add_cancel]
    exact lt_of_not_ge h

theorem leadingBit_lt {n d : ℕ} (hn : 0 < n) (hd : 0 < d) {q : ℤ} {k : ℕ}
    (high : (n : ℚ) / d / 2 ^ q < 2 ^ k) : leadingBit n d < q + k := by
  rw [div_lt_iff₀ (by positivity), ← zpow_natCast, ← zpow_add₀ two_ne_zero, add_comm] at high
  exact (zpow_lt_zpow_iff_right₀ one_lt_two).mp ((leadingBit_spec hn hd).1.trans_lt high)

theorem le_leadingBit {n d : ℕ} (hn : 0 < n) (hd : 0 < d) {q : ℤ} {k : ℕ}
    (low : 2 ^ k ≤ (n : ℚ) / d / 2 ^ q) : q + k ≤ leadingBit n d := by
  rw [le_div_iff₀ (by positivity), ← zpow_natCast, ← zpow_add₀ two_ne_zero, add_comm] at low
  exact Int.lt_add_one_iff.mp
    ((zpow_lt_zpow_iff_right₀ one_lt_two).mp (low.trans_lt (leadingBit_spec hn hd).2))

/-- Scaled down by its leading digit, a ratio fills a significand. -/
theorem significand_mem {n d : ℕ} (hn : 0 < n) (hd : 0 < d) :
    (2 : ℚ) ^ 52 ≤ n / d / 2 ^ (leadingBit n d - 52) ∧
      (n : ℚ) / d / 2 ^ (leadingBit n d - 52) < 2 ^ 53 := by
  obtain ⟨low, high⟩ := leadingBit_spec hn hd
  generalize leadingBit n d = k at low high ⊢
  have split (j : ℤ) : (2 : ℚ) ^ (k - 52) * 2 ^ j = 2 ^ (k - 52 + j) :=
    (zpow_add₀ two_ne_zero ..).symm
  constructor
  · rw [le_div_iff₀' (by positivity), ← zpow_natCast, split]
    simpa using low
  · rw [div_lt_iff₀' (by positivity), ← zpow_natCast, split,
      show k - 52 + ((53 : ℕ) : ℤ) = k + 1 by omega]
    exact high

/-! ### Significand and power -/

theorem fraction_lt (x : Binary64) : x.fraction.val < fractionCount := x.fraction.isLt

theorem significand_lt (x : Binary64) : x.significand < 2 * fractionCount := by
  have := x.fraction_lt
  unfold significand
  split <;> omega

theorem significand_pos {x : Binary64} (h : x.isZero = false) : 0 < x.significand := by
  simp only [isZero, Bool.and_eq_false_imp, beq_iff_eq, beq_eq_false_iff_ne] at h
  unfold significand
  split
  · next h0 => exact Nat.pos_of_ne_zero (h h0)
  · simp [fractionCount]

theorem least_power_le (x : Binary64) : -1074 ≤ x.power := by
  unfold power
  split <;> omega

theorem power_le {x : Binary64} (h : x.isFinite) : x.power ≤ 971 := by
  have := x.exponent.isLt
  simp only [isFinite, bne_iff_ne] at h
  unfold power
  split <;> omega

/-- A value above the least exponent fills its significand. -/
theorem fractionCount_le_significand {x : Binary64} (h : x.exponent.val ≠ 0) :
    fractionCount ≤ x.significand := by
  unfold significand
  rw [if_neg h]
  omega

theorem pack_of_lt (negative : Bool) {m : ℕ} {q : ℤ} (full : fractionCount ≤ m)
    (small : m < 2 * fractionCount) (hq : q ≤ 971) :
    pack negative m q
      = ⟨negative, Fin.ofNat 2048 (q + 1075).toNat,
        Fin.ofNat fractionCount (m - fractionCount)⟩ := by
  unfold pack
  rw [if_neg (by omega), if_neg (by omega : ¬ m = 2 * fractionCount)]
  exact if_neg (by omega)

/-- A finite float is packed of its own significand and power. -/
theorem pack_significand {x : Binary64} (h : x.isFinite) :
    pack x.negative x.significand x.power = x := by
  have exponent_lt := x.exponent.isLt
  have fraction_lt := x.fraction_lt
  have significand_lt := x.significand_lt
  have power_le := power_le h
  simp only [isFinite, bne_iff_ne] at h
  obtain ⟨negative, exponent, fraction⟩ := x
  by_cases h0 : exponent.val = 0
  · simp only [significand, h0, ↓reduceIte, pack, if_pos fraction_lt]
    congr 1
    · exact Fin.ext h0.symm
    · exact Fin.ext (Nat.mod_eq_of_lt fraction_lt)
  · rw [pack_of_lt _ (fractionCount_le_significand h0) significand_lt power_le]
    simp only [significand, power, h0, ↓reduceIte, mk.injEq, true_and]
    refine ⟨Fin.ext ?_, Fin.ext ?_⟩
    · simp only at exponent_lt
      rw [Fin.val_ofNat, Nat.mod_eq_of_lt (by omega)]
      omega
    · rw [Fin.val_ofNat, Nat.add_sub_cancel_left, Nat.mod_eq_of_lt fraction_lt]

/-- A significand that is rounded up to the next power of two gains a power. -/
theorem pack_carry (negative : Bool) {q : ℤ} (hq : q + 1 ≤ 971) :
    pack negative (2 * fractionCount) q = pack negative fractionCount (q + 1) := by
  rw [pack_of_lt _ le_rfl (by decide) hq]
  unfold pack
  rw [if_neg (by decide), if_pos rfl]
  exact if_neg (by omega)

/-- Of a ratio between two powers of two the significand is full. -/
theorem RoundsTo.full {m : ℕ} {w : ℚ} (h : RoundsTo m w) (low : (2 : ℚ) ^ 52 ≤ w)
    (high : w < 2 ^ 53) :
    fractionCount ≤ m ∧ m ≤ 2 * fractionCount := by
  constructor
  · have : (2 : ℚ) ^ 52 < m + 1 := by linarith only [low, h.high]
    have : 2 ^ 52 < m + 1 := by exact_mod_cast this
    exact Nat.le_of_lt_succ this
  · have : (m : ℚ) < 2 ^ 53 + 1 := by linarith only [high, h.low]
    have : m < 2 ^ 53 + 1 := by exact_mod_cast this
    exact Nat.le_of_lt_succ this

/-! ### The numbers that round to a value -/

/-- How far the numbers that round to a value reach below it, in units of its last place: half as
far where the values below lie twice as close. -/
def reachBelow (x : Binary64) : ℚ :=
  if x.fraction.val = 0 ∧ 1 < x.exponent.val then 1 / 4 else 1 / 2

/-- `v` is a magnitude that rounds to `x`. -/
structure Nearest (x : Binary64) (v : ℚ) : Prop where
  low : x.significand - x.reachBelow ≤ v / 2 ^ x.power
  high : v / 2 ^ x.power ≤ x.significand + 1 / 2
  even_low : v / 2 ^ x.power = x.significand - x.reachBelow → x.significand % 2 = 0
  even_high : v / 2 ^ x.power = x.significand + 1 / 2 → x.significand % 2 = 0

theorem reachBelow_le (x : Binary64) : x.reachBelow ≤ 1 / 2 := by
  unfold reachBelow
  split <;> norm_num

theorem reachBelow_nonneg (x : Binary64) : 0 ≤ x.reachBelow := by
  unfold reachBelow
  split <;> norm_num

/-- A value next to a float is rounded to its significand. -/
theorem Nearest.roundsTo {x : Binary64} {v : ℚ} (h : Nearest x v) :
    RoundsTo x.significand (v / 2 ^ x.power) := by
  refine ⟨?_, h.high, fun e => h.even_low ?_, h.even_high⟩
  · linarith [h.low, x.reachBelow_le]
  · linarith [h.low, x.reachBelow_le]

/-- Below its power of two, a value is reached by rounding up from the next smaller power. -/
theorem Nearest.roundsTo_carry {x : Binary64} {v : ℚ} (h : Nearest x v) (above : -1074 < x.power)
    (below : v / 2 ^ x.power < fractionCount) :
    x.significand = fractionCount ∧ RoundsTo (2 * fractionCount) (v / 2 ^ (x.power - 1)) := by
  have normal : x.exponent.val ≠ 0 := fun h0 => by simp [power, h0] at above
  have filled := fractionCount_le_significand normal
  -- the power below has twice the resolution
  have double : v / 2 ^ (x.power - 1) = v / 2 ^ x.power * 2 := by
    rw [zpow_sub_one₀ two_ne_zero]
    field_simp
  have low := h.low
  rw [double]
  generalize v / 2 ^ x.power = w at *
  have least : x.significand = fractionCount := by
    have : (x.significand : ℚ) < fractionCount + 1 := by linarith [x.reachBelow_le]
    have : x.significand < fractionCount + 1 := by exact_mod_cast this
    omega
  have reach : x.reachBelow = 1 / 4 := by
    rw [significand, if_neg normal] at least
    rw [power, if_neg normal] at above
    exact if_pos ⟨by omega, by omega⟩
  rw [least, reach] at low
  exact ⟨least, roundsTo_twice low below⟩

/-- A value next to a float that is not zero is above zero. -/
theorem Nearest.pos {x : Binary64} {v : ℚ} (h : Nearest x v) (h0 : x.isZero = false) : 0 < v := by
  have sig : (1 : ℚ) ≤ x.significand := by exact_mod_cast significand_pos h0
  have : 0 < v / 2 ^ x.power := by linarith only [h.low, x.reachBelow_le, sig]
  exact (div_pos_iff_of_pos_right (by positivity)).mp this

theorem Nearest.lt {x : Binary64} {v : ℚ} (h : Nearest x v) : v / 2 ^ x.power < 2 ^ 53 := by
  have sig : (x.significand : ℚ) + 1 ≤ 2 ^ 53 := by exact_mod_cast x.significand_lt
  linarith only [h.high, sig]

/-- A ratio next to a float is turned into this float. -/
theorem ofRatio_eq {x : Binary64} {n d : ℕ} (hx : x.isFinite) (h0 : x.isZero = false) (hd : 0 < d)
    (h : Nearest x (n / d)) : ofRatio x.negative n d = x := by
  have hn : 0 < n := by
    have := h.pos h0
    exact_mod_cast (div_pos_iff_of_pos_right (by exact_mod_cast hd)).mp this
  have least := x.least_power_le
  have largest := power_le hx
  have filled : (fractionCount : ℚ) = 2 ^ 52 := by norm_num
  have rounded (q : ℤ) :
      RoundsTo (halfEven (scaleDown n d q).1 (scaleDown n d q).2) (n / d / 2 ^ q) := by
    rw [← scaleDown_div]
    exact roundsTo_halfEven _ (scaleDown_pos n hd q)
  rw [ofRatio, if_neg hn.ne']
  by_cases carry : -1074 < x.power ∧ (n : ℚ) / d / 2 ^ x.power < fractionCount
  · -- the ratio lies below the power of two that `x` is, and is rounded up to it
    obtain ⟨above, below⟩ := carry
    obtain ⟨sig, carried⟩ := h.roundsTo_carry above below
    have half : (2 : ℚ) ^ 51 ≤ n / d / 2 ^ x.power := by
      have low := h.low
      rw [sig, filled] at low
      linarith only [low, x.reachBelow_le]
    have lower := le_leadingBit hn hd half
    have upper := leadingBit_lt hn hd (filled ▸ below)
    have q : max (leadingBit n d - 52) (-1074) = x.power - 1 := by omega
    simp only [q]
    rw [(rounded _).unique carried, pack_carry _ (by omega), ← sig, sub_add_cancel,
      pack_significand hx]
  · have q : max (leadingBit n d - 52) (-1074) = x.power := by
      -- the ratio has the leading bit that the significand has
      have upper := leadingBit_lt hn hd h.lt
      obtain low | normal := not_and_or.mp carry
      · omega
      · rw [filled, not_lt] at normal
        have lower := le_leadingBit hn hd normal
        omega
    simp only [q]
    rw [(rounded _).unique h.roundsTo, pack_significand hx]

end QuotationPress.Binary64
