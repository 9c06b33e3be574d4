import QuotationPress.Text.Blank
import QuotationPress.Text.Digit

/-!
# Digits of ASCII among the digits of all scripts

Digits of ASCII are decimal digits and stand for themselves, and what is no decimal digit is none of
them. They are no blanks.
-/

namespace QuotationPress.Text

variable {c : Char}

theorem toNat_of_isAsciiDigit (h : isAsciiDigit c = true) : 0x30 ≤ c.toNat ∧ c.toNat ≤ 0x39 := by
  simp only [isAsciiDigit, Bool.and_eq_true, decide_eq_true_eq, Char.le_def,
    UInt32.le_iff_toNat_le] at h
  exact h

theorem ne_of_isAsciiDigit {d : Char} (h : isAsciiDigit c = true) (other : isAsciiDigit d = false) :
    c ≠ d := by
  rintro rfl
  rw [h] at other
  cases other

theorem isBlank_of_isAsciiDigit (h : isAsciiDigit c = true) : isBlank c = false := by
  obtain ⟨low, high⟩ := toNat_of_isAsciiDigit h
  simp only [isBlank, Bool.or_eq_false_iff, Bool.and_eq_false_imp, decide_eq_true_eq,
    decide_eq_false_iff_not, beq_eq_false_iff_ne]
  omega

theorem decimalValue?_of_isAsciiDigit (h : isAsciiDigit c = true) :
    decimalValue? c = some (c.toNat - 0x30) := by
  obtain ⟨low, high⟩ := toNat_of_isAsciiDigit h
  have ascii : c.toNat < 0x80 := by omega
  simp [decimalValue?, ascii, low, high]

theorem isDecimal_of_isAsciiDigit (h : isAsciiDigit c = true) : isDecimal c = true := by
  rw [isDecimal, decimalValue?_of_isAsciiDigit h]
  rfl

theorem asciiDigit_of_isAsciiDigit (h : isAsciiDigit c = true) : asciiDigit c = c := by
  obtain ⟨low, -⟩ := toNat_of_isAsciiDigit h
  rw [asciiDigit, decimalValue?_of_isAsciiDigit h]
  have same : 0x30 + (c.toNat - 0x30) = c.toNat := by omega
  simp only [same, Char.ofNat_toNat]

theorem isAsciiDigit_of_not_isDecimal (h : isDecimal c = false) : isAsciiDigit c = false := by
  cases digit : isAsciiDigit c with
  | false => rfl
  | true =>
    rw [isDecimal_of_isAsciiDigit digit] at h
    cases h

theorem asciiDigit_of_not_isDecimal (h : isDecimal c = false) : asciiDigit c = c := by
  rw [isDecimal, Option.isSome_eq_false_iff, Option.isNone_iff_eq_none] at h
  rw [asciiDigit, h]

theorem map_asciiDigit_of_not_isDecimal {cs : List Char} (h : ∀ c ∈ cs, isDecimal c = false) :
    cs.map asciiDigit = cs :=
  (List.map_congr_left fun c hc => asciiDigit_of_not_isDecimal (h c hc)).trans (List.map_id _)

end QuotationPress.Text
