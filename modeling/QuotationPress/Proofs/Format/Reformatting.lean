import Mathlib.Data.Bool.AllAny
import QuotationPress.Proofs.Format.Currency
import QuotationPress.Proofs.Value.Openings

/-!
# Formatting what has been formatted

`currency_again` says that a written amount is left as it is when it is written once more: either
its text is no finite number, or it is one and denotes the same whole number again.
-/

namespace QuotationPress.Format

open Text (isBlank isDecimal asciiDigit trimLeft)
open Decimal (IsKept cleaned readSigned? readUnsigned?)

/-- What is read of the text of an amount. -/
def amountCore (cs : List Char) : List Char := cleaned ((Text.trim cs).filter (· ≠ ','))

theorem decimalOf?_str (s : String) : decimalOf? (.str s) = .ok (spelledDecimal? s) := rfl

/-- A text is read as what is left of it without blanks, commas and low lines. -/
theorem spelledDecimal?_eq (s : String) :
    spelledDecimal? s = readSigned? (amountCore s.toList) := by
  rw [spelledDecimal?, Decimal.read?_eq, amountCore]

/-! ### Texts that are no finite number -/

/-- A character that is read as it stands in an amount. -/
structure IsKeptInAmount (c : Char) : Prop extends IsKept c where
  no_comma : c ≠ ','

instance (c : Char) : Decidable (IsKeptInAmount c) :=
  decidable_of_iff (IsKept c ∧ c ≠ ',') ⟨fun h => ⟨h.1, h.2⟩, fun h => ⟨h.toIsKept, h.no_comma⟩⟩

/-- A text without blanks, commas and low lines at the beginning of an amount is read as it
stands. -/
theorem amountCore_append {as : List Char} (nonempty : as ≠ []) (kept : ∀ c ∈ as, IsKeptInAmount c)
    (bs : List Char) : ∃ more, amountCore (as ++ bs) = as ++ more := by
  have inked : ∀ c ∈ as, isBlank c = false := fun c hc => (kept c hc).inked
  have no_comma : as.filter (· ≠ ',') = as :=
    List.filter_eq_self.mpr fun c hc => by simpa using (kept c hc).no_comma
  have no_low_line : as.filter (· != '_') = as :=
    List.filter_eq_self.mpr fun c hc => by simpa using (kept c hc).no_low_line
  have ascii : as.map asciiDigit = as :=
    (List.map_congr_left fun c hc => (kept c hc).ascii).trans (List.map_id _)
  rw [amountCore, Text.trim_append_right nonempty inked, List.filter_append, no_comma, cleaned,
    Text.trim_append_right nonempty inked, List.filter_append, no_low_line, List.map_append, ascii]
  exact ⟨_, rfl⟩

/-- A character that neither belongs to a number nor is left out when a number is read. -/
def isForeign (c : Char) : Bool :=
  !isBlank c && !isDecimal c && !(['_', ',', '.', '-', '+'].contains c)

/-- A character that no number has: no blank or digit, and none of the marks. -/
theorem isForeign_iff {c : Char} : isForeign c = true ↔
    isBlank c = false ∧ isDecimal c = false ∧ c ≠ '_' ∧ c ≠ ',' ∧ c ≠ '.' ∧ c ≠ '-' ∧ c ≠ '+' := by
  simp [isForeign, and_assoc]

theorem isKeptInAmount_of_isForeign {c : Char} (h : isForeign c = true) : IsKeptInAmount c := by
  obtain ⟨inked, decimal, no_low_line, no_comma, -⟩ := isForeign_iff.mp h
  exact ⟨⟨inked, no_low_line, Text.asciiDigit_of_not_isDecimal decimal⟩, no_comma⟩

/-- The text begins, behind a minus sign if there is one, with a character that begins no number. -/
def StartsForeign (cs : List Char) : Prop :=
  ∃ c more, isForeign c = true ∧ (cs = c :: more ∨ cs = '-' :: c :: more)

/-- The text of an amount is no finite number. -/
def IsUnread (s : String) : Prop := (spelledDecimal? s).any Decimal.isFinite = false

/-- Behind such a character, or a minus sign and one, there is no number to be read. -/
theorem isUnread_of_startsForeign {s : String} (h : StartsForeign s.toList) : IsUnread s := by
  obtain ⟨c, more, foreign, start⟩ := h
  have kept := isKeptInAmount_of_isForeign foreign
  obtain ⟨-, decimal, -, -, point, minus, plus⟩ := isForeign_iff.mp foreign
  have unsigned (negative : Bool) (rest : List Char) :
      (readUnsigned? negative (c :: rest)).any Decimal.isFinite = false :=
    Decimal.readUnsigned?_of_head negative
      (by simpa using ⟨Text.isAsciiDigit_of_not_isDecimal decimal, point⟩)
  rw [IsUnread, spelledDecimal?_eq]
  obtain start | start := start
  · have single : ∀ d ∈ [c], IsKeptInAmount d := by simpa using kept
    obtain ⟨rest, core⟩ := amountCore_append (by simp) single more
    rw [start, ← List.singleton_append, core]
    simpa [readSigned?, minus, plus] using unsigned false rest
  · have kept_minus : IsKeptInAmount '-' := by decide +kernel
    have both : ∀ d ∈ ['-', c], IsKeptInAmount d := by simpa using ⟨kept_minus, kept⟩
    obtain ⟨rest, core⟩ := amountCore_append (by simp) both more
    have cut : '-' :: c :: more = ['-', c] ++ more := rfl
    rw [start, cut, core]
    exact unsigned true rest

/-- A day is no number: there is a minus sign behind the year. -/
theorem isUnread_of_day {s : String} {d : Date} {more : List Char}
    (h : s.toList = d.isoForm.toList ++ more) :
    IsUnread s := by
  have digits := all_isAsciiDigit_padded 4 d.year
  have nonempty := padded_ne_nil 4 d.year
  have year : ∀ c ∈ padded 4 d.year, IsKeptInAmount c := fun c hc =>
    have digit := List.all_eq_true.mp digits c hc
    ⟨Decimal.isKept_of_isAsciiDigit digit, Text.ne_of_isAsciiDigit digit rfl⟩
  have kept : ∀ c ∈ padded 4 d.year ++ ['-'], IsKeptInAmount c :=
    List.forall_mem_append.mpr ⟨year, List.forall_mem_singleton.mpr (by decide +kernel)⟩
  have start : s.toList = (padded 4 d.year ++ ['-']) ++
      (padded 2 d.month ++ '-' :: padded 2 d.day ++ more) := by
    rw [h, Date.isoForm]
    simp
  obtain ⟨rest, core⟩ :=
    amountCore_append (by simp) kept (padded 2 d.month ++ '-' :: padded 2 d.day ++ more)
  -- the digits of the year, and then no more of a number
  have stop : readUnsigned? false (padded 4 d.year ++ '-' :: rest) = none :=
    Decimal.readUnsigned?_of_stop false digits nonempty (by decide) (by decide) (by decide)
  rw [IsUnread, spelledDecimal?_eq, start, core, List.append_assoc, List.singleton_append,
    Decimal.readSigned?_of_digits digits nonempty, stop]
  rfl

/-- The text of what is no finite number is none either. -/
theorem isUnread_text {x : Value} {s : String} (other : ¬ IsFiniteAmount x) (h : x.text = .ok s) :
    IsUnread s := by
  have opening := Value.text_opening h
  generalize written : s.toList = cs at opening
  -- by how the text begins: with another text, a number, a day or a mark
  cases opening with
  | text t =>
    obtain rfl := String.toList_inj.mp written
    exact eq_false_of_ne_true other
  | number finite =>
    refine absurd ?_ other
    cases x <;> first | exact finite | exact finite.elim
  | day d more => exact isUnread_of_day written
  | mark known negative more =>
    have foreign : ∀ c ∈ Value.openingMarks, isForeign c = true :=
      List.all_eq_true.mp (by decide)
    refine isUnread_of_startsForeign ⟨_, more, foreign _ known, ?_⟩
    cases negative
    · exact .inl written
    · exact .inr written

/-! ### Formatted amounts -/

/-- What is left of a symbol in front of an amount. -/
def squeezed (cs : List Char) : List Char :=
  ((trimLeft ((trimLeft cs).filter (· ≠ ','))).filter (· != '_')).map asciiDigit

variable {cs : List Char}

/-- Of a grouped numeral only the digits are left, whatever is in front of it. -/
theorem amountCore_grouped (cs : List Char) (n : ℕ) :
    amountCore (cs ++ grouped (numeral n)) = squeezed cs ++ numeral n := by
  have grouping := isGrouping_grouped n
  have digit := Decimal.isKept_of_digits (all_isAsciiDigit_numeral n)
  have inked : ∀ c ∈ grouped (numeral n), isBlank c = false := by
    intro c hc
    obtain digit | rfl := grouping.chars c hc
    · exact (Decimal.isKept_of_isAsciiDigit digit).inked
    · decide
  have nonempty : grouped (numeral n) ≠ [] := by
    intro none
    have digits := grouping.digits
    rw [none] at digits
    exact numeral_ne_nil n digits.symm
  have no_low_line : (numeral n).filter (· != '_') = numeral n :=
    List.filter_eq_self.mpr fun c hc => by simpa using (digit c hc).no_low_line
  have ascii : (numeral n).map asciiDigit = numeral n :=
    (List.map_congr_left fun c hc => (digit c hc).ascii).trans (List.map_id _)
  rw [amountCore, Text.trim_append_left cs nonempty inked, List.filter_append, grouping.digits,
    cleaned, Text.trim_append_left _ (numeral_ne_nil n) fun c hc => (digit c hc).inked,
    List.filter_append, no_low_line, List.map_append, ascii, squeezed]

/-- What is left of a text without digits is part of the text, and a minus sign in front stays
there. -/
theorem squeezed_signed (minus : Bool) (decimals : ∀ c ∈ cs, isDecimal c = false) :
    ∃ q, q.Sublist cs ∧
      squeezed ((if minus then ['-'] else []) ++ cs) = (if minus then ['-'] else []) ++ q := by
  cases minus with
  | false =>
    have part : ((trimLeft ((trimLeft cs).filter (· ≠ ','))).filter (· != '_')).Sublist cs :=
      List.filter_sublist.trans ((List.dropWhile_sublist _).trans
        (List.filter_sublist.trans (List.dropWhile_sublist _)))
    exact ⟨_, part, Text.map_asciiDigit_of_not_isDecimal fun c hc => decimals c (part.subset hc)⟩
  | true =>
    have part : ((cs.filter (· ≠ ',')).filter (· != '_')).Sublist cs :=
      List.filter_sublist.trans List.filter_sublist
    have ascii := Text.map_asciiDigit_of_not_isDecimal fun c hc => decimals c (part.subset hc)
    refine ⟨_, part, ?_⟩
    rw [← ascii]
    rfl

/-- Digits behind a symbol are a finite number only if nothing is left of the symbol. -/
theorem readUnsigned?_append_numeral (negative : Bool) {q : List Char} {n : ℕ}
    (short : (digitCount n : ℤ) ≤ Decimal.greatestExponent)
    (symbol : ∀ c ∈ q, isDecimal c = false ∧ c ≠ '-' ∧ c ≠ '.')
    (finite : (readUnsigned? negative (q ++ numeral n)).any Decimal.isFinite = true) :
    readUnsigned? negative (q ++ numeral n) = some (.finite negative n 0) := by
  cases q with
  | nil => exact Decimal.readUnsigned?_numeral negative short
  | cons c rest =>
    obtain ⟨decimal, -, point⟩ := symbol c (List.mem_cons_self ..)
    rw [Decimal.readUnsigned?_of_head negative
      (by simpa using ⟨Text.isAsciiDigit_of_not_isDecimal decimal, point⟩)] at finite
    cases finite

/-- Behind a symbol without points and signs nothing but the number itself can be read. -/
theorem readSigned?_append_numeral (minus : Bool) {q : List Char} {n : ℕ}
    (short : (digitCount n : ℤ) ≤ Decimal.greatestExponent)
    (symbol : ∀ c ∈ q, isDecimal c = false ∧ c ≠ '-' ∧ c ≠ '.')
    (finite : (readSigned? ((if minus then ['-'] else []) ++ q ++ numeral n)).any Decimal.isFinite =
    true) :
    readSigned? ((if minus then ['-'] else []) ++ q ++ numeral n) = some (.finite minus n 0) := by
  cases minus with
  | true => exact readUnsigned?_append_numeral true short symbol finite
  | false =>
    change (readSigned? (q ++ numeral n)).any _ = true at finite
    change readSigned? (q ++ numeral n) = _
    cases q with
    | nil =>
      have unsigned :=
        Decimal.readSigned?_of_digits (all_isAsciiDigit_numeral n) (numeral_ne_nil n) []
      rw [List.append_nil] at unsigned
      rw [List.nil_append, unsigned]
      exact Decimal.readUnsigned?_numeral false short
    | cons c rest =>
      obtain ⟨-, no_minus, -⟩ := symbol c (List.mem_cons_self ..)
      -- a plus sign may be the symbol, or begin it
      by_cases plus : c = '+'
      · subst plus
        exact readUnsigned?_append_numeral false short (fun d hd =>
          symbol d (List.mem_cons_of_mem _ hd)) finite
      · have unsigned : readSigned? (c :: rest ++ numeral n) =
            readUnsigned? false (c :: rest ++ numeral n) := by
          simp [readSigned?, no_minus, plus]
        rw [unsigned] at finite ⊢
        exact readUnsigned?_append_numeral false short symbol finite

/-! ### Formatting again -/

/-- What is read as no number is kept as it is. -/
theorem currency_of_isUnread {s : String} (unread : IsUnread s) (symbol : String) :
    currency symbol (.str s) = .ok s := by
  rw [currency, decimalOf?_str]
  unfold IsUnread at unread
  cases spelled : spelledDecimal? s with
  | none => rfl
  | some d =>
    rw [spelled] at unread
    cases d with
    | finite => cases unread
    | infinity => rfl
    | nan => rfl

/-- An amount that has been written is written the same again, with a symbol that has no digit, no
minus sign and no point. -/
theorem currency_again {symbol s : String} {x : Value}
    (plain : ∀ c ∈ symbol.toList, isDecimal c = false ∧ c ≠ '-' ∧ c ≠ '.')
    (h : currency symbol x = .ok s) : currency symbol (.str s) = .ok s := by
  obtain ⟨negative, c, e, n, -, rounded, rfl⟩ | ⟨-, rfl⟩ | ⟨other, text⟩ := currency_cases h
  · by_cases unread : IsUnread (amountText symbol negative n)
    · exact currency_of_isUnread unread symbol
    · -- a rounded amount is read again, with the sign and the digits it is written with
      have room := Decimal.lt_of_roundedMagnitude?_eq rounded
      have count : digitCount n ≤ Decimal.precision := (digitCount_le_iff (by decide)).mpr room
      have short : (digitCount n : ℤ) ≤ Decimal.greatestExponent := by
        have limit : (Decimal.precision : ℤ) ≤ Decimal.greatestExponent := by decide
        omega
      obtain ⟨q, part, squeezed⟩ := squeezed_signed (negative && n ≠ 0) fun c hc => (plain c hc).1
      have core := amountCore_grouped ((if negative && n ≠ 0 then ['-'] else []) ++ symbol.toList) n
      rw [squeezed, ← toList_amountText] at core
      have read :=
        readSigned?_append_numeral (negative && n ≠ 0) short fun c hc => plain c (part.subset hc)
      rw [← core, ← spelledDecimal?_eq] at read
      have finite := read (eq_true_of_ne_false unread)
      rw [currency_of_finite symbol (by rw [decimalOf?_str, finite])
        (Decimal.roundedMagnitude?_whole room)]
      simp [amountText]
  · have unread : IsUnread "" := by
      rw [IsUnread]
      decide +kernel
    exact currency_of_isUnread unread symbol
  · exact currency_of_isUnread (isUnread_text other text) symbol

/-- A negative amount behind a symbol that ends with a blank. -/
theorem spacedSymbol_again :
    (∀ c ∈ "Rs ".toList, isDecimal c = false ∧ c ≠ '-' ∧ c ≠ '.') ∧
      currency "Rs " (.int (-1234567)) = .ok "-Rs 12,34,567" ∧
      currency "Rs " (.str "-Rs 12,34,567") = .ok "-Rs 12,34,567" := by
  have plain : ∀ c ∈ "Rs ".toList, isDecimal c = false ∧ c ≠ '-' ∧ c ≠ '.' :=
    List.all_iff_forall_prop.mp (by decide +kernel)
  have written : currency "Rs " (.int (-1234567)) = .ok "-Rs 12,34,567" := by decide +kernel
  exact ⟨plain, written, currency_again plain written⟩

end QuotationPress.Format
