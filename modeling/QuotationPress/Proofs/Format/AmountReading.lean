import Mathlib.Data.Bool.AllAny
import QuotationPress.Number.RealNumeral
import QuotationPress.Proofs.Format.Currency
import QuotationPress.Proofs.Number.Overflow

/-!
# Reading amounts back

Of a written amount its number is read again, whatever the symbol is, unless there is a point in the
symbol: `readAmount?_currency` says when the number is the one that was written.
-/

namespace QuotationPress

namespace Binary64

variable {n : ℕ}

theorem ofScaled_whole (negative : Bool) (room : digitCount n ≤ 310) :
    ofScaled negative n 0 = ofRatio negative n 1 := by
  unfold ofScaled
  split
  · next zero =>
    rw [zero]
    rfl
  · rw [if_neg (by omega), if_neg (by omega), if_pos (by omega)]
    simp

/-- The digits of a number behind a point. -/
theorem ofScaled_fraction (negative : Bool) (hn : 0 < n) :
    ofScaled negative n (-(digitCount n : ℤ)) = ofRatio negative n (10 ^ digitCount n) := by
  have count := digitCount_pos n
  rw [ofScaled, if_neg hn.ne', if_neg (by omega), if_neg (by omega), if_neg (by omega),
    Int.natAbs_neg, Int.natAbs_natCast]
  rfl

/-- Digits behind a point are between a tenth and one. -/
theorem leadingBit_fraction (hn : 0 < n) :
    -4 ≤ leadingBit n (10 ^ digitCount n) ∧ leadingBit n (10 ^ digitCount n) < 0 := by
  have count := digitCount_pos n
  have pos : 0 < 10 ^ digitCount n := Nat.pow_pos (by decide)
  have pos' : (0 : ℚ) < (10 ^ digitCount n : ℕ) := by exact_mod_cast pos
  constructor
  · have tenth : 10 ^ digitCount n ≤ n * 10 := by
      have lead := pow_le_of_lt_digitCount hn (Nat.sub_lt count one_pos)
      calc 10 ^ digitCount n
          _ = 10 ^ (digitCount n - 1) * 10 := by rw [← pow_succ, Nat.sub_add_cancel count]
          _ ≤ n * 10 := Nat.mul_le_mul_right 10 lead
    have tenth : ((10 ^ digitCount n : ℕ) : ℚ) ≤ n * 10 := by exact_mod_cast tenth
    have low : (2 : ℚ) ^ 0 ≤ n / (10 ^ digitCount n : ℕ) / 2 ^ (-4 : ℤ) := by
      rw [le_div_iff₀ (by positivity), le_div_iff₀ pos']
      norm_num
      push_cast at tenth
      linarith
    simpa using le_leadingBit hn pos low
  · have below : (n : ℚ) / (10 ^ digitCount n : ℕ) / 2 ^ (0 : ℤ) < 2 ^ 0 := by
      rw [zpow_zero, div_one, pow_zero, div_lt_one pos']
      exact_mod_cast lt_pow_digitCount n
    simpa using leadingBit_lt hn pos below

/-- The digits of a positive number are another number behind a point. -/
theorem ofScaled_fraction_ne (negative : Bool) (hn : 0 < n) (room : n < 10 ^ 28) :
    ofScaled negative n (-(digitCount n : ℤ)) ≠ ofScaled negative n 0 := by
  obtain rfl | two := (show 1 ≤ n from hn).eq_or_lt
  · cases negative <;> decide +kernel
  · have count : digitCount n ≤ 28 := (digitCount_le_iff (by decide)).mpr room
    have two : (2 : ℚ) ≤ n := by exact_mod_cast two
    have room : (n : ℚ) < 10 ^ 28 := by exact_mod_cast room
    have low := le_leadingBit hn one_pos (q := 0) (k := 1) (by simpa using two)
    have high := leadingBit_lt hn one_pos (q := 0) (k := 100) (by norm_num; linarith)
    obtain ⟨normal, below⟩ := leadingBit_fraction hn
    -- the one is rounded to at most one, the other to at least two
    have whole := exponent_ofRatio negative hn one_pos (by omega) (by omega)
    have part :=
      exponent_ofRatio negative hn (Nat.pow_pos (by decide) : 0 < 10 ^ digitCount n)
        (by omega) (by omega)
    rw [ofScaled_whole negative (by omega), ofScaled_fraction negative hn]
    intro same
    rw [same] at part
    omega

end Binary64

namespace Format

open Text (isDecimal asciiDigit isAsciiDigit)
open Binary64 (ofScaled ofInt)

variable {symbol : String} {n : ℕ} {minus : Bool}

/-! ### Signs, points and digits -/

/-- Digits with at most one point among them. -/
def unsignedNumber? (negative : Bool) (body : List Char) : Option Binary64 :=
  let whole := body.takeWhile isAsciiDigit
  let rest := body.dropWhile isAsciiDigit
  let fraction? := match rest with
    | [] => some []
    | '.' :: more => if more.all isAsciiDigit then some more else none
    | _ => none
  fraction?.bind fun fraction =>
    if whole.isEmpty && fraction.isEmpty then none
    else some (ofScaled negative (numeralValue (whole ++ fraction)) (-(fraction.length : ℤ)))

/-- The minus sign in front of a number, and the rest. -/
def minusPart : List Char → Bool × List Char
  | '-' :: rest => (true, rest)
  | rest => (false, rest)

theorem plainNumber?_eq (cs : List Char) :
    plainNumber? cs = unsignedNumber? (minusPart cs).1 (minusPart cs).2 := rfl

theorem minusPart_signed (minus : Bool) {body : List Char} (h : body.head? ≠ some '-') :
    minusPart ((if minus then ['-'] else []) ++ body) = (minus, body) := by
  cases minus with
  | true => rfl
  | false =>
    change minusPart body = _
    unfold minusPart
    split
    · exact absurd rfl h
    · rfl

variable {ds : List Char}

/-- Points in front of the digits: none at all, one, or too many. -/
def pointed (negative : Bool) (n digits : ℕ) : ℕ → Option Binary64
  | 0 => some (ofScaled negative n 0)
  | 1 => some (ofScaled negative n (-(digits : ℤ)))
  | _ => none

/-- Points and digits are read by the number of the points. -/
theorem unsignedNumber?_pointed (negative : Bool) (digits : ds.all isAsciiDigit = true)
    (nonempty : ds ≠ []) (points : ℕ) : unsignedNumber? negative (List.replicate points '.' ++ ds) =
      pointed negative (numeralValue ds) ds.length points := by
  have ends : EndsDigits [] := by simp [EndsDigits]
  obtain ⟨taken, dropped⟩ := takeWhile_digits_append digits ends
  rw [List.append_nil] at taken dropped
  obtain - | - | k := points
  · simp [unsignedNumber?, pointed, taken, dropped, nonempty]
  · simp [unsignedNumber?, pointed, List.replicate, digits, nonempty, isAsciiDigit]
  · simp [unsignedNumber?, pointed, List.replicate, isAsciiDigit]

/-! ### The characters of an amount -/

theorem isAmountChar_of_isAsciiDigit {c : Char} (h : isAsciiDigit c = true) :
    isAmountChar c = true := by
  simp [isAmountChar, Text.isDecimal_of_isAsciiDigit h]

/-- Of a symbol without digits and minus signs only the points count. -/
theorem filter_symbol {cs : List Char} (plain : ∀ c ∈ cs, isDecimal c = false ∧ c ≠ '-') :
    cs.filter isAmountChar = List.replicate (cs.count '.') '.' := by
  rw [← List.filter_beq]
  refine List.filter_congr fun c hc => ?_
  obtain ⟨decimal, minus⟩ := plain c hc
  simp [isAmountChar, decimal, minus]

theorem filter_digits {ds : List Char} (digits : ds.all isAsciiDigit = true) :
    ds.filter isAmountChar = ds :=
  List.filter_eq_self.mpr fun c hc => isAmountChar_of_isAsciiDigit (List.all_eq_true.mp digits c hc)

/-- Without its commas a grouped numeral is the numeral. -/
theorem filter_grouped (n : ℕ) : (grouped (numeral n)).filter isAmountChar = numeral n := by
  have grouping := isGrouping_grouped n
  refine (List.filter_congr fun c hc => ?_).trans grouping.digits
  obtain digit | rfl := grouping.chars c hc
  · have other : c ≠ ',' := Text.ne_of_isAsciiDigit digit rfl
    simpa [other] using isAmountChar_of_isAsciiDigit digit
  · decide

/-- What is read of digits behind a sign and a symbol depends on the points of the symbol. -/
theorem readAmountText?_signed {cs digits : List Char} {n : ℕ}
    (plain : ∀ c ∈ cs, isDecimal c = false ∧ c ≠ '-')
    (written : digits.filter isAmountChar = numeral n) (minus : Bool) :
    readAmountText? ((if minus then ['-'] else []) ++ cs ++ digits) =
      pointed minus n (digitCount n) (cs.count '.') := by
  -- of the symbol only its points are kept
  have kept : ((if minus then ['-'] else []) ++ cs ++ digits).filter isAmountChar =
      (if minus then ['-'] else []) ++ (List.replicate (cs.count '.') '.' ++ numeral n) := by
    rw [List.filter_append, List.filter_append, filter_symbol plain, written, List.append_assoc]
    cases minus <;> rfl
  have body : ∀ c ∈ List.replicate (cs.count '.') '.' ++ numeral n, c ≠ '-' ∧ asciiDigit c = c := by
    intro c hc
    obtain point | digit := List.mem_append.mp hc
    · rw [List.eq_of_mem_replicate point]
      exact ⟨by decide, by decide +kernel⟩
    · have digit := isAsciiDigit_of_mem_numeral digit
      exact ⟨Text.ne_of_isAsciiDigit digit rfl, Text.asciiDigit_of_isAsciiDigit digit⟩
  -- all that is kept is of ASCII already
  have ascii :
    ((if minus then ['-'] else []) ++ (List.replicate (cs.count '.') '.' ++ numeral n)).map
    asciiDigit =
      (if minus then ['-'] else []) ++ (List.replicate (cs.count '.') '.' ++ numeral n) := by
    have sign : (if minus then ['-'] else []).map asciiDigit = if minus then ['-'] else [] := by
      cases minus
      · rfl
      · decide +kernel
    rw [List.map_append, sign, List.map_congr_left fun c hc => (body c hc).2, List.map_id']
  have head : (List.replicate (cs.count '.') '.' ++ numeral n).head? ≠ some '-' :=
    fun first => (body '-' (List.mem_of_head? first)).1 rfl
  rw [readAmountText?, kept, ascii, plainNumber?_eq, minusPart_signed minus head,
    unsignedNumber?_pointed minus (all_isAsciiDigit_numeral n) (numeral_ne_nil n),
    numeralValue_numeral]
  rfl

/-! ### Written amounts -/

theorem intText_of_lt {i : ℤ} (room : i.natAbs < 10 ^ 28) :
    Value.intText i = .ok (String.ofList (intNumeral i)) := by
  have count : digitCount i.natAbs ≤ 28 := (digitCount_le_iff (by decide)).mpr room
  exact if_neg (not_lt.mpr (count.trans (by decide)))

theorem readAmount?_str (s : String) : readAmount? (.str s) = .ok (readAmountText? s.toList) := rfl

/-- One point in front of the digits does no harm to zero only. -/
theorem pointed_eq_iff (minus : Bool) {n : ℕ} (room : n < 10 ^ 28) (points : ℕ) :
    pointed minus n (digitCount n) points = some (ofScaled minus n 0) ↔
      points = 0 ∨ points = 1 ∧ n = 0 := by
  obtain - | - | k := points
  · simp [pointed]
  · obtain rfl | hn := Nat.eq_zero_or_pos n
    · simp [pointed, ofScaled]
    · have other := Binary64.ofScaled_fraction_ne minus hn room
      simpa [pointed, hn.ne'] using other
  · simp [pointed]

variable {i : ℤ}

theorem ofScaled_natAbs (room : i.natAbs < 10 ^ 28) :
    ofScaled (decide (i < 0)) i.natAbs 0 = ofInt i := by
  have count : digitCount i.natAbs ≤ 28 := (digitCount_le_iff (by decide)).mpr room
  exact Binary64.ofScaled_whole _ (by omega)

/-- A numeral is read as its number. -/
theorem readAmountText?_intNumeral (room : i.natAbs < 10 ^ 28) :
    readAmountText? (intNumeral i) = some (ofInt i) := by
  have signed :
      intNumeral i = (if decide (i < 0) then ['-'] else []) ++ [] ++ numeral i.natAbs := by
    unfold intNumeral
    split <;> simp [*]
  rw [signed, readAmountText?_signed (by simp) (filter_digits (all_isAsciiDigit_numeral i.natAbs)),
    ← ofScaled_natAbs room]
  rfl

/-- A whole amount of no more than 28 digits is read back from its written form as it is read from
its numeral if there is no point in the symbol. If there is one, only zero is; if there are more,
nothing is read. -/
theorem readAmount?_currency (room : i.natAbs < 10 ^ 28)
    (plain : ∀ c ∈ symbol.toList, isDecimal c = false ∧ c ≠ '-') :
    ∃ s t, currency symbol (.int i) = .ok s ∧ Value.intText i = .ok t ∧
      readAmount? (.str t) = .ok (some (ofInt i)) ∧
      (readAmount? (.str s) = readAmount? (.str t) ↔
        symbol.toList.count '.' = 0 ∨ symbol.toList.count '.' = 1 ∧ i = 0) := by
  have text := intText_of_lt room
  have read : decimalOf? (.int i) = .ok (some (Decimal.ofInt i)) := by
    rw [decimalOf?, text]
    rfl
  have written := currency_of_finite symbol read (Decimal.roundedMagnitude?_whole room)
  have sign : (decide (i < 0) && decide (i.natAbs ≠ 0)) = decide (i < 0) := by
    by_cases below : i < 0 <;> simp [below]
    omega
  have amount := readAmountText?_signed plain (filter_grouped i.natAbs) (decide (i < 0))
  have bare : readAmount? (.str (String.ofList (intNumeral i))) = .ok (some (ofInt i)) := by
    rw [readAmount?_str, String.toList_ofList, readAmountText?_intNumeral room]
  refine ⟨_, _, written, text, bare, ?_⟩
  rw [bare, readAmount?_str, toList_amountText, sign, amount, Except.ok.injEq,
    ← ofScaled_natAbs room, pointed_eq_iff _ room, Int.natAbs_eq_zero]

/-- A negative amount in three groups. -/
theorem crore_readBack :
    (-12345678 : ℤ).natAbs < 10 ^ 28 ∧ (∀ c ∈ "₹".toList, isDecimal c = false ∧ c ≠ '-') ∧
      ∃ s t, currency "₹" (.int (-12345678)) = .ok s ∧ Value.intText (-12345678) = .ok t ∧
        readAmount? (.str t) = .ok (some (ofInt (-12345678))) ∧
        readAmount? (.str s) = readAmount? (.str t) := by
  have room : (-12345678 : ℤ).natAbs < 10 ^ 28 := by decide
  have plain : ∀ c ∈ "₹".toList, isDecimal c = false ∧ c ≠ '-' :=
    List.all_iff_forall_prop.mp (by decide +kernel)
  obtain ⟨s, t, written, text, bare, same⟩ := readAmount?_currency room plain
  exact ⟨room, plain, s, t, written, text, bare, same.mpr (.inl (by decide))⟩

/-- Behind a symbol that ends with a point the digits of ten thousand are read as a tenth. -/
theorem dottedSymbol_misread :
    (10000 : ℤ).natAbs < 10 ^ 28 ∧ (∀ c ∈ "Rs.".toList, isDecimal c = false ∧ c ≠ '-') ∧
      currency "Rs." (.int 10000) = .ok "Rs.10,000" ∧ Value.intText 10000 = .ok "10000" ∧
      readAmount? (.str "Rs.10,000") = .ok (Binary64.read? "0.1".toList) ∧
      readAmount? (.str "Rs.10,000") ≠ readAmount? (.str "10000") := by
  refine ⟨by decide, List.all_iff_forall_prop.mp (by decide +kernel), ?_, ?_, ?_, ?_⟩
    <;> decide +kernel

end Format

end QuotationPress
