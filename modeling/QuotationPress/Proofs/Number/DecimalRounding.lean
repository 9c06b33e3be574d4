import Mathlib.Algebra.Order.Round
import Mathlib.Data.Rat.Floor
import QuotationPress.Proofs.Number.Shortest

/-!
# Rounding decimals to whole numbers

`nearestWhole` rounds a rational number, a half away from zero; `roundedMagnitude?_eq` says that
decimals are rounded so as long as there is room for the digits.
-/

namespace QuotationPress

open Binary64 (scaled scaled_of_nonneg scaled_of_neg)

/-- The nearest whole number, of two the one farther from zero. -/
def nearestWhole (v : ℚ) : ℤ := if v < 0 then -round (-v) else round v

/-- A tie above zero is rounded up. -/
theorem round_tie {v : ℚ} (nonneg : 0 ≤ v) (tie : |v - round v| = 1 / 2) :
    |v| < |(round v : ℚ)| := by
  obtain ⟨low, high⟩ := round_eq_iff.mp (rfl : round v = round v)
  have above : v < round v := by
    obtain less | more := abs_choice (v - round v) <;> linarith
  rwa [abs_of_nonneg nonneg, abs_of_nonneg (nonneg.trans above.le)]

/-- The nearest whole number is at most a half away, and away from zero at a tie. -/
theorem nearestWhole_spec (v : ℚ) :
    |v - nearestWhole v| ≤ 1 / 2 ∧
      (|v - nearestWhole v| = 1 / 2 → |v| < |(nearestWhole v : ℚ)|) := by
  unfold nearestWhole
  split
  · next below =>
    have mirrored : |v - (-round (-v) : ℤ)| = |-v - round (-v)| := by
      rw [Int.cast_neg, ← abs_neg]
      ring_nf
    rw [mirrored, Int.cast_neg, abs_neg (round (-v) : ℚ), ← abs_neg v]
    exact ⟨abs_sub_round (-v), round_tie (by linarith)⟩
  · next above => exact ⟨abs_sub_round v, round_tie (not_lt.mp above)⟩

example :
    nearestWhole (5 / 2) = 3 ∧ nearestWhole (-5 / 2) = -3 ∧ nearestWhole (-1 / 3) = 0 := by
  decide +kernel

/-! ### Magnitudes -/

theorem scaled_nonneg (c : ℕ) (e : ℤ) : 0 ≤ scaled c e := by
  unfold scaled
  positivity

theorem exists_round_scaled (c : ℕ) (e : ℤ) : ∃ n : ℕ, round (scaled c e) = n := by
  refine Int.eq_ofNat_of_zero_le ?_
  rw [round_eq]
  exact Int.floor_nonneg.mpr (by linarith [scaled_nonneg c e])

/-- Zeros at the end count as digits. -/
theorem digitCount_add_le_iff {c : ℕ} (hc : 0 < c) (k bound : ℕ) :
    digitCount c + k ≤ bound ↔ c * 10 ^ k < 10 ^ bound := by
  refine ⟨fun h => ?_, fun h => ?_⟩
  · calc c * 10 ^ k < 10 ^ digitCount c * 10 ^ k := by gcongr; exact lt_pow_digitCount c
      _ = 10 ^ (digitCount c + k) := (pow_add ..).symm
      _ ≤ 10 ^ bound := Nat.pow_le_pow_right (by decide) h
  · by_contra exceeds
    refine absurd h (not_lt.mpr ?_)
    have pos := digitCount_pos c
    calc 10 ^ bound ≤ 10 ^ (digitCount c - 1 + k) := Nat.pow_le_pow_right (by decide) (by omega)
      _ = 10 ^ (digitCount c - 1) * 10 ^ k := pow_add ..
      _ ≤ c * 10 ^ k := by gcongr; exact pow_le_of_lt_digitCount hc (by omega)

namespace Decimal

/-- Rounding half up by division is rounding of the ratio. -/
theorem round_div_eq_halfUp (n : ℕ) {d : ℕ} (hd : 0 < d) :
    round ((n : ℚ) / d) = (halfUp n d : ℕ) := by
  have hd' : (0 : ℚ) < d := by exact_mod_cast hd
  have low : halfUp n d * (2 * d) ≤ 2 * n + d := Nat.div_mul_le_self ..
  have high : 2 * n + d < (halfUp n d + 1) * (2 * d) :=
    Nat.lt_mul_of_div_lt (Nat.lt_succ_self _) (by omega)
  generalize halfUp n d = q at low high ⊢
  have low : (q : ℚ) * (2 * d) ≤ 2 * n + d := by exact_mod_cast low
  have high : (2 : ℚ) * n + d < (q + 1) * (2 * d) := by exact_mod_cast high
  refine round_eq_iff.mpr ⟨?_, ?_⟩
  · rw [Int.cast_natCast, le_div_iff₀ hd']
    linarith
  · rw [Int.cast_natCast, div_lt_iff₀ hd']
    linarith

/-- The rounded magnitude is the nearest whole number, if there is room for its digits. -/
theorem roundedMagnitude?_eq {c : ℕ} {e : ℤ} {n : ℕ} (h : round (scaled c e) = n) :
    roundedMagnitude? c e = if n < 10 ^ precision then some n else none := by
  unfold roundedMagnitude?
  split
  · next zero =>
    obtain rfl : n = 0 := by simpa [zero, scaled, eq_comm] using h
    rfl
  · next positive =>
    have hc : 0 < c := Nat.pos_of_ne_zero positive
    split
    · next whole =>
      rw [scaled_of_nonneg c whole, Nat.cast_one, div_one, round_natCast, Nat.cast_inj] at h
      have room := digitCount_add_le_iff hc e.toNat precision
      rw [← Nat.pow_eq, h] at room
      simp only [room, h]
    · next broken =>
      have pos : 0 < Nat.pow 10 e.natAbs := Nat.pow_pos (by decide)
      rw [scaled_of_neg c broken, round_div_eq_halfUp c pos, Nat.cast_inj] at h
      split
      · next small =>
        -- less than a tenth is rounded to zero without a division
        have tenth := (digitCount_add_le_iff hc 1 e.natAbs).mp small
        have zero : halfUp c (Nat.pow 10 e.natAbs) = 0 :=
          Nat.div_eq_of_lt (by rw [Nat.pow_eq]; omega)
        obtain rfl : n = 0 := by rw [← h, zero]
        rfl
      · simp only [digitCount_le_iff (by decide : 0 < precision), h]

/-- An amount has too many digits from half a unit below a power of ten on. -/
theorem roundedMagnitude?_eq_none_iff (c : ℕ) (e : ℤ) :
    roundedMagnitude? c e = none ↔ (10 : ℚ) ^ precision - 1 / 2 ≤ scaled c e := by
  obtain ⟨n, hn⟩ := exists_round_scaled c e
  obtain ⟨low, high⟩ := round_eq_iff.mp hn
  rw [Int.cast_natCast] at low high
  have bound : ((10 ^ precision : ℕ) : ℚ) = 10 ^ precision := Nat.cast_pow 10 precision
  rw [roundedMagnitude?_eq hn, ← bound, ite_eq_right_iff]
  simp only [reduceCtorEq, imp_false, not_lt]
  constructor
  · intro large
    have large : ((10 ^ precision : ℕ) : ℚ) ≤ n := by exact_mod_cast large
    linarith
  · intro large
    have large : ((10 ^ precision : ℕ) : ℚ) < n + 1 := by linarith
    exact Nat.lt_succ_iff.mp (by exact_mod_cast large)

/-- A rounded magnitude has no more digits than there is room for. -/
theorem lt_of_roundedMagnitude?_eq {c : ℕ} {e : ℤ} {n : ℕ} (h : roundedMagnitude? c e = some n) :
    n < 10 ^ precision := by
  obtain ⟨m, hm⟩ := exists_round_scaled c e
  rw [roundedMagnitude?_eq hm] at h
  split at h
  · next room => rwa [← Option.some.inj h]
  · cases h

/-- A whole number stays as it is when it is rounded. -/
theorem roundedMagnitude?_whole {n : ℕ} (room : n < 10 ^ precision) :
    roundedMagnitude? n 0 = some n := by
  have whole : round (scaled n 0) = n := by simp [scaled]
  rw [roundedMagnitude?_eq whole, if_pos room]

/-! ### Values -/

/-- The number that a finite decimal stands for. -/
def value? : Decimal → Option ℚ
  | finite negative c e => some (if negative then -scaled c e else scaled c e)
  | _ => none

/-- The sign goes along with the rounded magnitude. -/
theorem nearestWhole_signed (negative : Bool) {c : ℕ} {e : ℤ} {n : ℕ} (h : round (scaled c e) = n) :
    nearestWhole (if negative then -scaled c e else scaled c e) =
      if negative then -(n : ℤ) else n := by
  have nonneg := scaled_nonneg c e
  cases negative with
  | false => simp [nearestWhole, not_lt.mpr nonneg, h]
  | true =>
    obtain zero | pos := nonneg.eq_or_lt
    · rw [← zero, round_zero] at h
      simp [nearestWhole, ← zero, ← h]
    · simp [nearestWhole, pos, h]

end Decimal

end QuotationPress
