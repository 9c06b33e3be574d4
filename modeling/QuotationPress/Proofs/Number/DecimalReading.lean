import QuotationPress.Proofs.Number.Parts
import QuotationPress.Proofs.Text.Digits
import QuotationPress.Proofs.Text.Trim

/-!
# Reading decimals

`read?_text` says that the text of a finite floating point number is read as the decimal it spells,
`readUnsigned?_numeral` does so for a numeral, and `readUnsigned?_of_head` and
`readUnsigned?_of_stop` say which texts are no finite number.
-/

namespace QuotationPress.Decimal

open Text (isAsciiDigit isBlank asciiDigit)

/-- What is read of a text: no blanks around it, no low lines, and digits of ASCII only. -/
def cleaned (cs : List Char) : List Char := ((Text.trim cs).filter (· != '_')).map asciiDigit

/-- A number behind its sign. -/
def readSigned? : List Char → Option Decimal
  | '-' :: rest => readUnsigned? true rest
  | '+' :: rest => readUnsigned? false rest
  | rest => readUnsigned? false rest

theorem read?_eq (cs : List Char) : read? cs = readSigned? (cleaned cs) := rfl

/-- A character that is read as it stands. -/
structure IsKept (c : Char) : Prop where
  inked : isBlank c = false
  no_low_line : c ≠ '_'
  ascii : asciiDigit c = c

instance (c : Char) : Decidable (IsKept c) :=
  decidable_of_iff (isBlank c = false ∧ c ≠ '_' ∧ asciiDigit c = c)
    ⟨fun h => ⟨h.1, h.2.1, h.2.2⟩, fun h => ⟨h.inked, h.no_low_line, h.ascii⟩⟩

theorem isKept_of_isAsciiDigit {c : Char} (h : isAsciiDigit c = true) : IsKept c :=
  ⟨Text.isBlank_of_isAsciiDigit h, Text.ne_of_isAsciiDigit h rfl, Text.asciiDigit_of_isAsciiDigit h⟩

theorem isKept_of_digits {ds : List Char} (digits : ds.all isAsciiDigit = true) :
    ∀ c ∈ ds, IsKept c :=
  fun c hc => isKept_of_isAsciiDigit (List.all_eq_true.mp digits c hc)

/-- A text of characters that are kept is not changed when it is cleaned. -/
theorem cleaned_of_isKept {cs : List Char} (h : ∀ c ∈ cs, IsKept c) : cleaned cs = cs := by
  cases cs with
  | nil => rfl
  | cons c rest =>
    have trimmed := Text.trim_append_left [] (List.cons_ne_nil c rest) fun c hc => (h c hc).inked
    rw [cleaned, ← List.nil_append (c :: rest), trimmed, Text.trimLeft, List.dropWhile_nil,
      List.nil_append, List.filter_eq_self.mpr fun c hc => by simpa using (h c hc).no_low_line]
    exact (List.map_congr_left fun c hc => (h c hc).ascii).trans (List.map_id _)

/-! ### Parts of a number -/

theorem readScale?_exponentText (e : ℤ) : readScale? (FloatLayout.exponentText e) = some e := by
  have digits := all_isAsciiDigit_padded 2 e.natAbs
  have nonempty := padded_ne_nil 2 e.natAbs
  by_cases h : e < 0
  · simp [readScale?, FloatLayout.exponentText, foldLetter, h, digits, nonempty, abs_of_neg h]
  · simp [readScale?, FloatLayout.exponentText, foldLetter, h, digits, nonempty,
      abs_of_nonneg (not_lt.mp h)]

theorem readScale?_scaleText (n : NumberParts) :
    readScale? n.scaleText = some (n.scale.getD 0) := by
  unfold NumberParts.scaleText
  cases n.scale with
  | none => rfl
  | some e => exact readScale?_exponentText e

variable {ds rest : List Char}

/-- Digits, a point and digits unless there are none, and what follows them. -/
theorem readNumber?_spelled (negative : Bool) (fraction tail : List Char)
    (digits : (ds ++ fraction).all isAsciiDigit = true) (nonempty : ds ≠ [])
    (ends : EndsDigits tail) (point : tail.head? ≠ some '.') :
    readNumber? negative (ds ++ ((if fraction = [] then [] else '.' :: fraction) ++ tail)) =
      (readScale? tail).bind fun e =>
        hold? negative (numeralValue (ds ++ fraction)) (e - fraction.length) := by
  rw [List.all_append, Bool.and_eq_true] at digits
  -- without a fraction there is no point, so that the digits end at the tail
  by_cases none : fraction = []
  · obtain ⟨taken, dropped⟩ := takeWhile_digits_append digits.1 ends
    rw [readNumber?, if_pos none, List.nil_append, taken, dropped]
    cases tail with
    | nil => simp [nonempty, none]
    | cons c more =>
      have other : c ≠ '.' := fun h => point (by rw [h]; rfl)
      simp [nonempty, none, other]
  · have dotted : EndsDigits ('.' :: (fraction ++ tail)) := by simp [EndsDigits, isAsciiDigit]
    obtain ⟨taken, dropped⟩ := takeWhile_digits_append digits.1 dotted
    obtain ⟨taken', dropped'⟩ := takeWhile_digits_append digits.2 ends
    rw [readNumber?, if_neg none, List.cons_append, taken, dropped]
    simp [nonempty, taken', dropped']

/-- No word for a value that is no number begins with a digit. -/
theorem readUnsigned?_of_digits (negative : Bool) (digits : ds.all isAsciiDigit = true)
    (nonempty : ds ≠ []) (rest : List Char) : readUnsigned? negative (ds ++ rest) =
      readNumber? negative (ds ++ rest) := by
  obtain ⟨c, more, rfl⟩ := List.exists_cons_of_ne_nil nonempty
  have digit : isAsciiDigit c = true := (Bool.and_eq_true_iff.mp digits).1
  have others : c ≠ 'i' ∧ c ≠ 'n' ∧ c ≠ 's' :=
    ⟨Text.ne_of_isAsciiDigit digit rfl, Text.ne_of_isAsciiDigit digit rfl,
      Text.ne_of_isAsciiDigit digit rfl⟩
  have folded : foldLetter c = c := by
    obtain ⟨-, high⟩ := Text.toNat_of_isAsciiDigit digit
    refine if_neg fun letter => ?_
    have capital : 0x41 ≤ c.toNat := of_decide_eq_true (Bool.and_eq_true_iff.mp letter).1
    omega
  simp [readUnsigned?, folded, others]

/-- A digit is no sign. -/
theorem readSigned?_of_digits (digits : ds.all isAsciiDigit = true) (nonempty : ds ≠ [])
    (rest : List Char) :
    readSigned? (ds ++ rest) = readUnsigned? false (ds ++ rest) := by
  obtain ⟨c, more, rfl⟩ := List.exists_cons_of_ne_nil nonempty
  have digit : isAsciiDigit c = true := (Bool.and_eq_true_iff.mp digits).1
  unfold readSigned?
  split
  · next start => exact absurd (List.cons.inj start).1 (Text.ne_of_isAsciiDigit digit rfl)
  · next start => exact absurd (List.cons.inj start).1 (Text.ne_of_isAsciiDigit digit rfl)
  · rfl

/-- The text of a number is read as its coefficient and exponent, if these can be held. -/
theorem readUnsigned?_parts (n : NumberParts) (negative : Bool) :
    readUnsigned? negative n.text = hold? negative n.coefficient n.exponent := by
  obtain ⟨ends, point⟩ := n.endsDigits_scaleText
  have number := readNumber?_spelled negative n.fraction n.scaleText n.digits n.nonempty ends point
  rw [readScale?_scaleText, Option.bind_some] at number
  rw [NumberParts.text, readUnsigned?_of_digits negative n.digits_whole n.nonempty]
  exact number

/-- What is neither too small nor too large can be held. -/
theorem hold?_eq_some (negative : Bool) {c : ℕ} {e : ℤ} (low : leastExponent ≤ e)
    (high : e + digitCount c ≤ greatestExponent) : hold? negative c e =
      some (finite negative c e) := by
  have count := digitCount_pos c
  have top : (if c = 0 then e else e + (digitCount c : ℤ) - 1) ≤ greatestExponent := by
    split <;> omega
  simp [hold?, low, top]

/-- A numeral is read as its number. -/
theorem readUnsigned?_numeral (negative : Bool) {n : ℕ}
    (short : (digitCount n : ℤ) ≤ greatestExponent) :
    readUnsigned? negative (numeral n) = some (finite negative n 0) := by
  have digits := all_isAsciiDigit_numeral n
  have number := readNumber?_spelled negative [] [] (by simpa using digits) (numeral_ne_nil n)
    (by simp [EndsDigits]) (by simp)
  have unsigned := readUnsigned?_of_digits negative digits (numeral_ne_nil n) []
  rw [List.append_nil] at unsigned
  rw [unsigned]
  simpa [readScale?, hold?_eq_some negative (by decide : leastExponent ≤ 0) (by simpa using short)]
    using number

theorem isKept_scaleText (n : NumberParts) : ∀ c ∈ n.scaleText, IsKept c := by
  unfold NumberParts.scaleText
  cases n.scale with
  | none => simp
  | some e =>
    refine List.forall_mem_cons.mpr ⟨by decide +kernel, List.forall_mem_cons.mpr ⟨?_, ?_⟩⟩
    · split <;> decide +kernel
    · exact isKept_of_digits (all_isAsciiDigit_padded 2 e.natAbs)

/-- All characters in the text of a number are kept. -/
theorem isKept_partsText (n : NumberParts) : ∀ c ∈ n.text, IsKept c := by
  rw [NumberParts.text, List.forall_mem_append, List.forall_mem_append]
  refine ⟨isKept_of_digits n.digits_whole, ?_, isKept_scaleText n⟩
  split
  · simp
  · exact List.forall_mem_cons.mpr ⟨by decide +kernel, isKept_of_digits n.digits_fraction⟩

theorem isKept_signText (x : Binary64) : ∀ c ∈ x.signText, IsKept c := by
  unfold Binary64.signText
  split
  · exact List.forall_mem_singleton.mpr (by decide +kernel)
  · simp

/-- The text of a finite floating point number is read as the decimal that it spells. -/
theorem read?_text {x : Binary64} (hx : x.isFinite = true) : read? x.text = some x.toDecimal := by
  obtain ⟨n, parts⟩ := NumberParts.exists_isPartsOf hx
  have kept : ∀ c ∈ x.text, IsKept c := by
    rw [parts.text]
    exact List.forall_mem_append.mpr ⟨isKept_signText x, isKept_partsText n⟩
  have number := readUnsigned?_parts n x.negative
  rw [hold?_eq_some _ ((by decide : leastExponent ≤ -416).trans parts.least)
    (parts.greatest.trans (by decide)), ← parts.decimal] at number
  rw [read?_eq, cleaned_of_isKept kept, parts.text, ← number, Binary64.signText]
  cases negative : x.negative with
  | true => rfl
  | false => exact readSigned?_of_digits n.digits_whole n.nonempty _

/-! ### Texts that are no finite number -/

/-- A finite number begins with a digit or a point. -/
theorem readUnsigned?_of_head (negative : Bool) {cs : List Char}
    (h : ∀ c ∈ cs.head?, isAsciiDigit c = false ∧ c ≠ '.') :
    (readUnsigned? negative cs).any isFinite = false := by
  have number : readNumber? negative cs = none := by
    cases cs with
    | nil => rfl
    | cons c rest =>
      obtain ⟨other, point⟩ := h c rfl
      simp [readNumber?, other, point]
  -- what is left are the words for infinity and for what is no number
  unfold readUnsigned?
  dsimp only
  split
  · rfl
  · split
    · split <;> rfl
    · split <;> rfl
    · rw [number]
      rfl

/-- Behind the digits of a number there are a point, a scale, or nothing. -/
theorem readUnsigned?_of_stop (negative : Bool) (digits : ds.all isAsciiDigit = true)
    (nonempty : ds ≠ []) {c : Char} (other : isAsciiDigit c = false) (point : c ≠ '.')
    (scale : foldLetter c ≠ 'e') :
    readUnsigned? negative (ds ++ c :: rest) = none := by
  have number := readNumber?_spelled negative [] (c :: rest)
    (by simpa using digits) nonempty (by simpa [EndsDigits] using other) (by simpa using point)
  rw [readUnsigned?_of_digits negative digits nonempty]
  simpa [readScale?, scale] using number

end QuotationPress.Decimal
