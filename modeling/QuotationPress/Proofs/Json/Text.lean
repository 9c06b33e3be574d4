import Mathlib.Tactic.SplitIfs
import QuotationPress.Value.Json

/-!
# Texts in JSON texts

`readText?_escaped` reads back the characters of a quoted text.
-/

namespace QuotationPress

/-! ### Hexadecimal digits -/

namespace Text

theorem hexPadded_succ (width n : Nat) :
    hexPadded (width + 2) n = hexPadded (width + 1) (n / 16) ++ [Nat.digitChar (n % 16)] := by
  unfold hexPadded
  by_cases small : n < 16
  · have zero : n / 16 = 0 := by omega
    rw [Nat.toDigits_of_lt_base small, zero, Nat.toDigits_zero, Nat.mod_eq_of_lt small]
    simp [List.replicate_succ']
  · rw [Nat.toDigits_of_base_le (by decide) (by omega)]
    simp

theorem hexPadded_one {n : Nat} (h : n < 16) : hexPadded 1 n = [Nat.digitChar n] := by
  simp [hexPadded, Nat.toDigits_of_lt_base h]

theorem hexValue?_digitChar {n : Nat} (h : n < 16) : hexValue? (Nat.digitChar n) = some n := by
  have all : ∀ k < 16, hexValue? (Nat.digitChar k) = some k := by decide
  exact all n h

end Text

namespace Json

open Text (hexPadded hexPadded_succ hexPadded_one hexValue?_digitChar)

theorem readUnit?_hexPadded {n : Nat} (h : n < 0x10000) (rest : List Char) :
    readUnit? (hexPadded 4 n ++ rest) = some (n, rest) := by
  rw [hexPadded_succ, hexPadded_succ, hexPadded_succ, hexPadded_one (by omega)]
  simp only [List.cons_append, List.nil_append, readUnit?]
  rw [hexValue?_digitChar (by omega), hexValue?_digitChar (by omega),
    hexValue?_digitChar (by omega), hexValue?_digitChar (by omega)]
  simp only [Option.bind_eq_bind, Option.bind_some, Option.pure_def, Option.some.injEq,
    Prod.mk.injEq, and_true]
  omega

/-! ### Characters -/

theorem charOfUnit_toNat (c : Char) : charOfUnit c.toNat = c := by
  rw [charOfUnit, if_pos (show c.toNat.isValidChar from c.valid), Char.ofNat_toNat]

/-- Half a pair is no character. -/
theorem toNat_ranges (c : Char) : c.toNat < 0xD800 ∨ 0xDFFF < c.toNat ∧ c.toNat < 0x110000 := by
  have h := c.valid
  simp only [UInt32.isValidChar, Nat.isValidChar] at h
  simp only [Char.toNat]
  omega

/-- A code unit that is no first half is read as a character. -/
theorem readEscapedUnit?_single {n : Nat} (h : n < 0x10000) (lone : ¬ (0xD800 ≤ n ∧ n ≤ 0xDBFF))
    (rest : List Char) : readEscapedUnit? (hexPadded 4 n ++ rest) = some (charOfUnit n, rest) := by
  simp [readEscapedUnit?, readUnit?_hexPadded h, lone]

/-- Two halves are read as one character. -/
theorem readEscapedUnit?_pair {high low : Nat} (hhigh : 0xD800 ≤ high ∧ high ≤ 0xDBFF)
    (hlow : 0xDC00 ≤ low ∧ low ≤ 0xDFFF) (rest : List Char) :
    readEscapedUnit? (hexPadded 4 high ++ '\\' :: 'u' :: (hexPadded 4 low ++ rest))
      = some (Char.ofNat (0x10000 + (high - 0xD800) * 0x400 + (low - 0xDC00)), rest) := by
  simp [readEscapedUnit?, readUnit?_hexPadded (Nat.lt_of_le_of_lt hhigh.2 (by decide)),
    readUnit?_hexPadded (Nat.lt_of_le_of_lt hlow.2 (by decide)), hhigh, hlow]

/-- The code units of a character are read as the character. -/
theorem readEscapedUnit?_escapedUnits (c : Char) (rest : List Char) : ∃ units,
    escapedUnits c = '\\' :: 'u' :: units ∧ readEscapedUnit? (units ++ rest) = some (c, rest) := by
  have ranges := toNat_ranges c
  have code := Char.ofNat_toNat c
  have unit := charOfUnit_toNat c
  unfold escapedUnits
  generalize c.toNat = n at *
  -- a character beyond the first plane is written as two halves
  by_cases single : n < 0x10000
  · refine ⟨hexPadded 4 n, by simp only [single, ↓reduceIte], ?_⟩
    rw [readEscapedUnit?_single single (by omega), unit]
  · rw [if_neg single]
    obtain ⟨high, hhigh⟩ : ∃ high, high = 0xD800 + (n - 0x10000) / 0x400 := ⟨_, rfl⟩
    obtain ⟨low, hlow⟩ : ∃ low, low = 0xDC00 + (n - 0x10000) % 0x400 := ⟨_, rfl⟩
    have join : 0x10000 + (high - 0xD800) * 0x400 + (low - 0xDC00) = n := by omega
    rw [← hhigh, ← hlow]
    refine ⟨hexPadded 4 high ++ '\\' :: 'u' :: hexPadded 4 low, rfl, ?_⟩
    rw [List.append_assoc, List.cons_append, List.cons_append,
      readEscapedUnit?_pair (by omega) (by omega), join, code]

/-! ### Texts -/

theorem eq_ofNat_of_toNat {c : Char} {n : Nat} (h : c.toNat = n) : c = Char.ofNat n := by
  rw [← h, Char.ofNat_toNat]

/-- What is written for a character is read as the character. -/
theorem readText?_escapedChar (c : Char) (fuel : Nat) (rest : List Char) :
    readText? (fuel + 1) (escapedChar c ++ rest) =
      (readText? fuel rest).map fun r => (c :: r.1, r.2) := by
  unfold escapedChar
  split_ifs with h1 h2 h3 h4 h5 h6 h7
  · obtain rfl | rfl : c = '"' ∨ c = '\\' := by simpa using h1
    · rfl
    · rfl
  · obtain rfl := beq_iff_eq.mp h2
    rfl
  · obtain rfl := beq_iff_eq.mp h3
    rfl
  · obtain rfl := beq_iff_eq.mp h4
    rfl
  · obtain rfl := eq_ofNat_of_toNat (beq_iff_eq.mp h5)
    rfl
  · obtain rfl := eq_ofNat_of_toNat (beq_iff_eq.mp h6)
    rfl
  · have marks : c ≠ '"' ∧ c ≠ '\\' := by simpa using h1
    have shown : ¬ c.toNat < 0x20 := by
      simp only [Bool.and_eq_true, decide_eq_true_eq] at h7
      omega
    simp [readText?, marks, shown]
  · obtain ⟨units, written, reads⟩ := readEscapedUnit?_escapedUnits c rest
    rw [written]
    simp [readText?, reads]

/-- Escaped characters up to the quote mark are read as they were. -/
theorem readText?_escaped (cs : List Char) {fuel : Nat} (rest : List Char) (h : cs.length < fuel) :
    readText? fuel (cs.flatMap escapedChar ++ '"' :: rest) = some (cs, rest) := by
  induction cs generalizing fuel with
  | nil =>
    obtain ⟨fuel, rfl⟩ := Nat.exists_eq_add_of_lt h
    simp [readText?]
  | cons c cs ih =>
    obtain ⟨fuel, rfl⟩ : ∃ n, fuel = n + 1 := ⟨fuel - 1, by simp at h; omega⟩
    rw [List.flatMap_cons, List.append_assoc, readText?_escapedChar, ih (by simpa using h)]
    rfl

/-- Every character takes room. -/
theorem length_le_escaped (cs : List Char) : cs.length ≤ (cs.flatMap escapedChar).length := by
  induction cs with
  | nil => exact Nat.le_refl 0
  | cons c cs ih =>
    have : 0 < (escapedChar c).length := by
      obtain ⟨units, written, -⟩ := readEscapedUnit?_escapedUnits c []
      unfold escapedChar
      rw [written]
      split_ifs <;> simp
    rw [List.flatMap_cons, List.length_append, List.length_cons]
    omega

/-- A text between quote marks is read back. -/
theorem readText?_quotedText (s : String) (rest : List Char) :
    ∃ more, (quotedText s).toList ++ rest = '"' :: more ∧
      readText? (more.length + 1) more = some (s.toList, rest) := by
  refine ⟨s.toList.flatMap escapedChar ++ '"' :: rest, by simp [quotedText],
    readText?_escaped _ _ ?_⟩
  have := length_le_escaped s.toList
  simp only [List.length_append]
  omega

end Json

end QuotationPress
