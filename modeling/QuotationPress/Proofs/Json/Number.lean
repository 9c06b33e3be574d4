import QuotationPress.Proofs.Number.Parts
import QuotationPress.Value.Json

/-!
# Numbers in JSON texts

`readNumber?_numeral` and `readNumber?_text` read back what the writer has written for a whole
number and for a floating point number, whatever follows that cannot belong to the number.
-/

namespace QuotationPress.Json

open Text (isAsciiDigit)

/-- A text that does not go on with a part of a number. -/
def EndsNumber (cs : List Char) : Prop :=
  ∀ c ∈ cs.head?, isAsciiDigit c = false ∧ c ≠ '.' ∧ c ≠ 'e' ∧ c ≠ 'E'

variable {rest : List Char}

theorem EndsNumber.endsDigits (h : EndsNumber rest) : EndsDigits rest := fun c hc => (h c hc).1

/-! ### Parts of a number -/

/-- Digits without a leading zero are read as the whole part. -/
theorem wholePart?_append {ds : List Char} (digits : ds.all isAsciiDigit = true)
    (nonempty : ds ≠ []) (lead : ds = ['0'] ∨ ds.head? ≠ some '0') (hr : EndsDigits rest) :
    wholePart? (ds ++ rest) = some (ds, rest) := by
  obtain rfl | lead := lead
  · rfl
  · obtain ⟨taken, dropped⟩ := takeWhile_digits_append digits hr
    unfold wholePart?
    split
    · next h =>
      have := congrArg List.head? h
      rw [List.head?_append_of_ne_nil _ nonempty] at this
      exact absurd this lead
    · simp [taken, dropped, nonempty]

theorem fractionPart_point {ds : List Char} (digits : ds.all isAsciiDigit = true)
    (nonempty : ds ≠ []) (hr : EndsDigits rest) :
    fractionPart ('.' :: (ds ++ rest)) = (ds, rest) := by
  obtain ⟨taken, dropped⟩ := takeWhile_digits_append digits hr
  simp [fractionPart, taken, dropped, nonempty]

theorem fractionPart_none (h : rest.head? ≠ some '.') : fractionPart rest = ([], rest) := by
  unfold fractionPart
  split
  · exact absurd rfl h
  · rfl

theorem scalePart_none (h : ∀ c ∈ rest.head?, c ≠ 'e' ∧ c ≠ 'E') :
    scalePart rest = (none, rest) := by
  cases rest with
  | nil => rfl
  | cons c more =>
    obtain ⟨h1, h2⟩ := h c rfl
    simp [scalePart, h1, h2]

theorem scalePart_exponentText (e : ℤ) (hr : EndsDigits rest) :
    scalePart (FloatLayout.exponentText e ++ rest) = (some e, rest) := by
  obtain ⟨taken, dropped⟩ := takeWhile_digits_append (all_isAsciiDigit_padded 2 e.natAbs) hr
  have nonempty := padded_ne_nil 2 e.natAbs
  by_cases h : e < 0
  · simp [scalePart, FloatLayout.exponentText, h, taken, dropped, nonempty, abs_of_neg h]
  · simp [scalePart, FloatLayout.exponentText, h, taken, dropped, nonempty,
      abs_of_nonneg (not_lt.mp h)]

/-! ### Whole numbers -/

theorem lead_numeral (n : ℕ) : numeral n = ['0'] ∨ (numeral n).head? ≠ some '0' := by
  obtain rfl | hn := Nat.eq_zero_or_pos n
  · exact .inl rfl
  · exact .inr (head?_numeral hn)

/-- A numeral is read as an integer. -/
theorem readNumber?_numeral (negative : Bool) {n : ℕ} (short : digitCount n ≤ numeralLimit)
    (hr : EndsNumber rest) :
    readNumber? negative (numeral n ++ rest) = some (.int (if negative then -n else n), rest) := by
  have point : rest.head? ≠ some '.' := fun h => (hr _ h).2.1 rfl
  have scale : ∀ c ∈ rest.head?, c ≠ 'e' ∧ c ≠ 'E' := fun c hc => (hr c hc).2.2
  rw [readNumber?,
    wholePart?_append (all_isAsciiDigit_numeral n) (numeral_ne_nil n) (lead_numeral n)
    hr.endsDigits]
  have fits : (numeral n).length ≤ numeralLimit := short
  simp [fractionPart_none point, scalePart_none scale, fits]

/-! ### Floating point numbers -/

/-- The text of a float is read as a float. -/
theorem readNumber?_parts (n : NumberParts) (negative : Bool) (hr : EndsNumber rest) :
    readNumber? negative (n.text ++ rest) =
      some (.float (Binary64.ofScaled negative n.coefficient n.exponent), rest) := by
  have read_scale : scalePart (n.scaleText ++ rest) = (n.scale, rest) := by
    unfold NumberParts.scaleText
    cases n.scale with
    | none => exact scalePart_none fun c hc => (hr c hc).2.2
    | some e => exact scalePart_exponentText e hr.endsDigits
  have ends_scale : EndsDigits (n.scaleText ++ rest) ∧ (n.scaleText ++ rest).head? ≠ some '.' := by
    unfold NumberParts.scaleText
    cases n.scale with
    | none => exact ⟨hr.endsDigits, fun h => (hr _ h).2.1 rfl⟩
    | some e => simp [EndsDigits, FloatLayout.exponentText, isAsciiDigit]
  obtain ⟨ends, point⟩ := ends_scale
  have as_tail : n.text ++ rest =
      n.whole ++
        ((if n.fraction = [] then [] else '.' :: n.fraction) ++ (n.scaleText ++ rest)) := by
    simp [NumberParts.text]
  rw [as_tail, NumberParts.coefficient, NumberParts.exponent]
  generalize n.scaleText ++ rest = tail at *
  -- without a fraction there is an exponent, so that it is no integer
  by_cases none : n.fraction = []
  · obtain ⟨e, scale⟩ := Option.ne_none_iff_exists'.mp (n.broken.resolve_left (by simp [none]))
    rw [readNumber?, if_pos none, List.nil_append,
      wholePart?_append n.digits_whole n.nonempty n.lead ends]
    simp [fractionPart_none point, read_scale, none, scale]
  · have dotted : EndsDigits ('.' :: (n.fraction ++ tail)) := by simp [EndsDigits, isAsciiDigit]
    rw [readNumber?, if_neg none, List.cons_append,
      wholePart?_append n.digits_whole n.nonempty n.lead dotted]
    simp [fractionPart_point n.digits_fraction none ends, read_scale, none]

/-- A finite number behind its sign. -/
theorem text_of_isFinite {x : Binary64} (hx : x.isFinite = true) :
    ∃ body, x.text = x.signText ++ body ∧
      ∀ rest, EndsNumber rest → readNumber? x.negative (body ++ rest) = some (.float x, rest) := by
  obtain ⟨n, parts⟩ := NumberParts.exists_isPartsOf hx
  exact ⟨n.text, parts.text, fun rest hr => by rw [readNumber?_parts n _ hr, parts.value]⟩

/-! ### A number as a value -/

theorem head_of_readNumber? {negative : Bool} {cs : List Char}
    (h : (readNumber? negative cs).isSome = true) :
    ∃ d more, cs = d :: more ∧ isAsciiDigit d = true := by
  cases cs with
  | nil => cases h
  | cons d more =>
    refine ⟨d, more, rfl, ?_⟩
    by_contra other
    have none : wholePart? (d :: more) = none := by
      unfold wholePart?
      split
      · next h => exact absurd (by rw [(List.cons.inj h).1]; rfl) other
      · simp [other]
    rw [readNumber?, none] at h
    cases h

/-- No word begins with a digit, nor with a minus and a digit. -/
theorem readWord?_digit {d : Char} (h : isAsciiDigit d = true) (more : List Char) :
    readWord? (d :: more) = none ∧ readWord? ('-' :: d :: more) = none := by
  have others : 'n' ≠ d ∧ 't' ≠ d ∧ 'f' ≠ d ∧ 'N' ≠ d ∧ 'I' ≠ d ∧ '-' ≠ d := by
    refine ⟨?_, ?_, ?_, ?_, ?_, ?_⟩ <;> rintro rfl <;> exact absurd h (by decide)
  simp [readWord?, words, others]

theorem readValue?_number {cs rest : List Char} {v : Value} (negative : Bool) (fuel : ℕ)
    (h : readNumber? negative cs = some (v, rest)) :
    readValue? (fuel + 1) ((if negative then ['-'] else []) ++ cs) = some (v, rest) := by
  obtain ⟨d, more, rfl, digit⟩ := head_of_readNumber? (by rw [h]; rfl)
  obtain ⟨plain, signed⟩ := readWord?_digit digit more
  have others : d ≠ '"' ∧ d ≠ '[' ∧ d ≠ '\x7b' ∧ d ≠ '-' := by
    refine ⟨?_, ?_, ?_, ?_⟩ <;> rintro rfl <;> exact absurd digit (by decide)
  cases negative with
  | true => simp [readValue?, signed, h]
  | false => simp [readValue?, plain, others, h]

end QuotationPress.Json
