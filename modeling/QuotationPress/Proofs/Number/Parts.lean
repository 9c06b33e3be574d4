import QuotationPress.Number.FloatText
import QuotationPress.Proofs.Number.Shortest

/-!
# The parts of a written number

`NumberParts` are the digits before the point, the digits behind it and the scale of a number that
is no plain numeral; `NumberParts.exists_isPartsOf` says that the text of a finite floating point
number is made of such parts, and that they are the parts of a number that rounds to it.
-/

namespace QuotationPress

open Text (isAsciiDigit)

/-- A number with a fraction or a scale, as it is written. -/
structure NumberParts where
  whole : List Char
  fraction : List Char
  scale : Option ℤ
  digits : (whole ++ fraction).all isAsciiDigit = true
  nonempty : whole ≠ []
  lead : whole = ['0'] ∨ whole.head? ≠ some '0'
  broken : fraction ≠ [] ∨ scale ≠ none

namespace NumberParts

def scaleText (n : NumberParts) : List Char := (n.scale.map FloatLayout.exponentText).getD []

def text (n : NumberParts) : List Char :=
  n.whole ++ ((if n.fraction = [] then [] else '.' :: n.fraction) ++ n.scaleText)

/-- The number is `coefficient · 10 ^ exponent`. -/
def coefficient (n : NumberParts) : ℕ := numeralValue (n.whole ++ n.fraction)

def exponent (n : NumberParts) : ℤ := n.scale.getD 0 - n.fraction.length

/-- What stands behind the digits and the fraction begins with a letter, if there is anything. -/
theorem endsDigits_scaleText (n : NumberParts) :
    EndsDigits n.scaleText ∧ n.scaleText.head? ≠ some '.' := by
  unfold scaleText
  cases n.scale <;> simp [EndsDigits, FloatLayout.exponentText, isAsciiDigit]

theorem digits_whole (n : NumberParts) : n.whole.all isAsciiDigit = true := by
  have digits := n.digits
  rw [List.all_append, Bool.and_eq_true] at digits
  exact digits.1

theorem digits_fraction (n : NumberParts) : n.fraction.all isAsciiDigit = true := by
  have digits := n.digits
  rw [List.all_append, Bool.and_eq_true] at digits
  exact digits.2

/-! ### The parts of a floating point number -/

/-- `text` spells `c · 10 ^ e`. -/
def Spells (text : List Char) (c : ℕ) (e : ℤ) : Prop :=
  ∃ n : NumberParts, n.text = text ∧ n.coefficient = c ∧ n.exponent = e

theorem spells_zero : Spells ['0', '.', '0'] 0 (-1) :=
  ⟨⟨['0'], ['0'], none, rfl, by simp, .inl rfl, .inl (by simp)⟩, rfl, rfl, rfl⟩

variable {ds : List Char} {k : ℕ} {p : ℤ}

/-- Zero, a point, zeros and the digits. -/
theorem spells_small (digits : ds.all isAsciiDigit = true) (nonempty : ds ≠ [])
    (value : numeralValue ds = k) {zeros : ℕ} (scale : (zeros : ℤ) + ds.length = -p) :
    Spells ('0' :: '.' :: List.replicate zeros '0' ++ ds) k p := by
  refine ⟨⟨['0'], List.replicate zeros '0' ++ ds, none, by simpa [isAsciiDigit] using digits,
    by simp, .inl rfl,
    .inl (by simp [nonempty])⟩, by simp [text, scaleText, nonempty], ?_, ?_⟩
  · have run : ['0'] ++ (List.replicate zeros '0' ++ ds) =
        List.replicate (zeros + 1) '0' ++ ds := by
      simp [List.replicate_succ]
    rw [coefficient, run, numeralValue_zeros_append, value]
  · simp [exponent]
    omega

/-- The digits, zeros, and a zero behind the point. -/
theorem spells_whole (digits : ds.all isAsciiDigit = true) (nonempty : ds ≠ [])
    (lead : ds.head? ≠ some '0') (value : numeralValue ds = k) (zeros : ℕ) :
    Spells (ds ++ List.replicate zeros '0' ++ ['.', '0']) (k * 10 ^ (zeros + 1)) (-1) := by
  refine ⟨⟨ds ++ List.replicate zeros '0', ['0'], none, by simpa [isAsciiDigit] using digits,
    by simp [nonempty],
    .inr (by rwa [List.head?_append, List.head?_eq_some_head nonempty, Option.some_or,
      ← List.head?_eq_some_head]), .inl (by simp)⟩,
    by simp [text, scaleText], ?_, by simp [exponent]⟩
  have run : ds ++ List.replicate zeros '0' ++ ['0'] = ds ++ List.replicate (zeros + 1) '0' := by
    simp [List.replicate_succ']
  rw [coefficient, run, numeralValue_append, numeralValue_replicate_zero, Nat.add_zero, value,
    List.length_replicate]

/-- The point stands between the digits. -/
theorem spells_broken (digits : ds.all isAsciiDigit = true) (lead : ds.head? ≠ some '0')
    (value : numeralValue ds = k) {before : ℕ} (some_before : 0 < before)
    (some_behind : before < ds.length) (scale : (before : ℤ) - ds.length = p) :
    Spells (ds.take before ++ '.' :: ds.drop before) k p := by
  have nonempty : ds.drop before ≠ [] := by simpa using some_behind
  have started : ds.take before ≠ [] := List.ne_nil_of_length_pos (by rw [List.length_take]; omega)
  refine ⟨⟨ds.take before, ds.drop before, none, by rwa [List.take_append_drop], started,
    .inr (by rwa [List.head?_take, if_neg (by omega)]), .inl nonempty⟩,
    by simp [text, scaleText, nonempty], by rw [coefficient, List.take_append_drop, value], ?_⟩
  simp [exponent]
  omega

/-- One digit before the point, the others behind it, and a scale. -/
theorem spells_scaled (digits : ds.all isAsciiDigit = true) (lead : ds.head? ≠ some '0')
    (value : numeralValue ds = k) (nonempty : ds ≠ []) {top : ℤ} (scale : top - ds.length + 1 = p) :
    Spells (ds.take 1 ++ (if 1 < ds.length then '.' :: ds.drop 1 else [])
      ++ FloatLayout.exponentText top) k p := by
  have length_pos := List.length_pos_iff.mpr nonempty
  refine ⟨⟨ds.take 1, ds.drop 1, some top, by rwa [List.take_append_drop], by simpa using nonempty,
    .inr (by rwa [List.head?_take, if_neg (by omega)]), .inr (by simp)⟩, ?_,
    by rw [coefficient, List.take_append_drop, value], ?_⟩
  · have one : ds.drop 1 = [] ↔ ¬ 1 < ds.length := by rw [List.drop_eq_nil_iff, not_lt]
    simp only [text, scaleText, one, ite_not]
    simp
  · simp [exponent]
    omega

/-- How the number `k · 10 ^ p` is spelt in data: a whole number in positional notation gets a digit
behind the point. -/
def inData (k : ℕ) (p : ℤ) : ℕ × ℤ :=
  let top := p + digitCount k - 1
  if 0 ≤ p && Binary64.dataLayout.least ≤ top && top < Binary64.dataLayout.bound then
    (k * Nat.pow 10 (p.toNat + 1), -1)
  else (k, p)

/-- The digits of a float are spelled in one of four ways. -/
theorem spells_digitsText (hk : 0 < k) (p : ℤ) :
    Spells (Binary64.dataLayout.digitsText (numeral k) (p + (numeral k).length - 1))
      (inData k p).1 (inData k p).2 := by
  have digits := all_isAsciiDigit_numeral k
  have lead := head?_numeral hk
  have value := numeralValue_numeral k
  have nonempty := numeral_ne_nil k
  have length_pos := List.length_pos_iff.mpr nonempty
  unfold inData digitCount
  generalize numeral k = ds at *
  unfold FloatLayout.digitsText
  split
  · next positional =>
    split
    · -- below one: zeros in front of the digits
      next small =>
      have below : ¬ 0 ≤ p := by omega
      simpa [below] using spells_small digits nonempty value (p := p) (by omega)
    · next large =>
      simp only
      split
      · -- a whole number: zeros behind the digits, and a point
        next long =>
        have above : 0 ≤ p := by omega
        have zeros : (p + ds.length - 1).toNat + 1 - ds.length = p.toNat := by omega
        have point : Binary64.dataLayout.keepPoint = true := rfl
        have spelt := spells_whole digits nonempty lead value p.toNat
        rw [zeros, if_pos point, if_pos (by simpa [above] using positional)]
        exact spelt
      · -- the point stands among the digits
        next short =>
        have below : ¬ 0 ≤ p := by omega
        simpa [below] using spells_broken digits lead value (by omega) (by omega) (by omega)
  · -- too small or too large: one digit in front of the point, and the exponent behind
    next scaled =>
    have other : (0 ≤ p && Binary64.dataLayout.least ≤ p + ds.length - 1 &&
        p + ds.length - 1 < Binary64.dataLayout.bound) = false := by
      rw [Bool.and_assoc, eq_false_of_ne_true scaled, Bool.and_false]
    have scale : (p + ds.length - 1) - ds.length + 1 = p := by omega
    simp only [other]
    exact spells_scaled digits lead value nonempty scale

/-- The digit behind the point changes nothing in what the number stands for. -/
theorem scaled_inData (k : ℕ) (p : ℤ) :
    Binary64.scaled (inData k p).1 (inData k p).2 = Binary64.scaled k p := by
  unfold inData
  dsimp only
  split
  · next positional =>
    have whole : 0 ≤ p := by simp at positional; omega
    rw [Nat.pow_eq, Binary64.scaled_mul_pow]
    congr 1
    omega
  · rfl

theorem min_le_inData (k : ℕ) (p : ℤ) : min p (-1) ≤ (inData k p).2 := by
  unfold inData
  dsimp only
  split <;> simp

/-- The text of the finite value `x` is made of the parts `n`, whose number is read as `x`. -/
structure IsPartsOf (n : NumberParts) (x : Binary64) : Prop where
  text : x.text = x.signText ++ n.text
  decimal : x.toDecimal = .finite x.negative n.coefficient n.exponent
  value : Binary64.ofScaled x.negative n.coefficient n.exponent = x
  least : -416 ≤ n.exponent
  greatest : n.exponent + digitCount n.coefficient ≤ 310

/-- Every finite float has a text in parts, and is read back from them. -/
theorem exists_isPartsOf {x : Binary64} (hx : x.isFinite = true) :
    ∃ n : NumberParts, n.IsPartsOf x := by
  have number : x.isNan = false := by simp [Binary64.isNan, hx]
  cases h0 : x.isZero with
  | true =>
    have zero : x = Binary64.zero x.negative := by
      simp only [Binary64.isZero, Bool.and_eq_true, beq_iff_eq] at h0
      obtain ⟨negative, exponent, fraction⟩ := x
      simp only at h0
      simp only [Binary64.zero, Binary64.mk.injEq, true_and]
      exact ⟨Fin.ext h0.1, Fin.ext h0.2⟩
    obtain ⟨n, text, coefficient, exponent⟩ := spells_zero
    have one : digitCount 0 = 1 := rfl
    refine ⟨n, ?_, ?_, ?_, by omega, by rw [coefficient, exponent, one]; decide⟩
    · simp [text, Binary64.text, Binary64.textWith, number, hx, h0, Binary64.dataLayout]
    · simp [coefficient, exponent, Binary64.toDecimal, number, hx, h0]
    · rw [coefficient, exponent, zero]
      rfl
  | false =>
    -- the shortest digits round to the float, and so does the text of them
    obtain ⟨pos, near⟩ := Binary64.shortest_nearest h0
    obtain ⟨n, text, coefficient, exponent⟩ := spells_digitsText pos x.shortest.2
    have scale := min_le_inData x.shortest.1 x.shortest.2
    rw [← scaled_inData, ← coefficient, ← exponent] at near
    refine ⟨n, ?_, ?_, Binary64.ofScaled_eq hx h0 near, ?_, (near.digitCount_mem hx h0).2⟩
    · simp [text, Binary64.text, Binary64.textWith, number, hx, h0]
    · rw [coefficient, exponent]
      simp only [Binary64.toDecimal, number, hx, h0, inData, Bool.not_true, Bool.false_eq_true,
        ↓reduceIte]
      split <;> rfl
    · have := x.le_shortest_scale
      omega

end NumberParts

end QuotationPress
