import QuotationPress.Proofs.Number.DecimalReading

/-!
# Texts of decimals

`read?_finiteText` says that a finite decimal is read back from its text, scale and all, if it is
one that can be held; what is read of a text always can: `isHeld_of_read?`.
-/

namespace QuotationPress.Decimal

open Text (isAsciiDigit)

variable {negative : Bool} {c : ℕ} {e : ℤ}

/-! ### Decimals that can be held -/

/-- The decimal has an exponent that can be held. -/
def IsHeld : Decimal → Prop
  | finite negative c e => hold? negative c e = some (finite negative c e)
  | _ => True

theorem eq_of_hold? {d : Decimal} (h : hold? negative c e = some d) : d = finite negative c e :=
  (Option.some.inj (Option.ite_none_right_eq_some.mp h).2).symm

theorem hold?_of_readNumber? {sign : Bool} {ds : List Char}
    (h : readNumber? sign ds = some (finite negative c e)) : hold? negative c e =
      some (finite negative c e) := by
  unfold readNumber? at h
  dsimp only at h
  split at h
  all_goals
    obtain ⟨k, -, held⟩ := Option.bind_eq_some_iff.mp (Option.ite_none_left_eq_some.mp h).2
    obtain ⟨rfl, rfl, rfl⟩ := finite.inj (eq_of_hold? held)
    exact held

theorem hold?_of_readUnsigned? {sign : Bool} {ds : List Char}
    (h : readUnsigned? sign ds = some (finite negative c e)) : hold? negative c e =
      some (finite negative c e) := by
  unfold readUnsigned? at h
  dsimp only at h
  split at h
  · cases h
  · split at h
    · split at h <;> cases h
    · split at h <;> cases h
    · exact hold?_of_readNumber? h

/-- What is read can be held. -/
theorem isHeld_of_read? {cs : List Char} (h : read? cs = some (finite negative c e)) :
    (finite negative c e).IsHeld := by
  rw [read?_eq] at h
  unfold readSigned? at h
  split at h
  · exact hold?_of_readUnsigned? h
  · exact hold?_of_readUnsigned? h
  · exact hold?_of_readUnsigned? h

/-! ### The layout of a text -/

/-- The scale behind the digits; there is none where it is zero. -/
def scaleMark (k : ℤ) : List Char :=
  if k = 0 then [] else 'E' :: (if k < 0 then '-' else '+') :: numeral k.natAbs

/-- `c · 10 ^ e` is written with the digits `whole` in front of the point, `fraction` behind it, and
the scale `k`. -/
structure IsLayout (whole fraction : List Char) (k : ℤ) (c : ℕ) (e : ℤ) : Prop where
  digits : (whole ++ fraction).all isAsciiDigit = true
  nonempty : whole ≠ []
  coefficient : numeralValue (whole ++ fraction) = c
  exponent : k - fraction.length = e

def layoutText (whole fraction : List Char) (k : ℤ) : List Char :=
  whole ++ ((if fraction = [] then [] else '.' :: fraction) ++ scaleMark k)

/-- The text of a finite decimal is its sign and a layout of its coefficient and exponent. -/
theorem exists_isLayout (negative : Bool) (c : ℕ) (e : ℤ) :
    ∃ whole fraction k, IsLayout whole fraction k c e ∧
    finiteText negative c e = (if negative then ['-'] else []) ++ layoutText whole fraction k := by
  have digits := all_isAsciiDigit_numeral c
  have value := numeralValue_numeral c
  have nonempty := numeral_ne_nil c
  have length_pos := List.length_pos_iff.mpr nonempty
  unfold finiteText
  generalize numeral c = ds at *
  have scale (left point : ℤ) : (if left = point then [] else
      'E' :: (if left < point then '-' else '+') :: numeral (left - point).natAbs) =
        scaleMark (left - point) := by
    simp only [scaleMark, sub_eq_zero, sub_neg]
  simp only [scale, List.append_assoc]
  generalize hpoint : (if e ≤ 0 && e + ds.length > -6 then e + (ds.length : ℤ) else 1) = point
  have place : point = e + ds.length ∧ e ≤ 0 ∨ point = 1 := by
    rw [← hpoint]
    split
    · next plain => exact .inl ⟨rfl, by simp at plain; omega⟩
    · exact .inr rfl
  -- the sign aside, the point stands in front of the digits, behind them or among them
  suffices body : ∃ whole fraction k, IsLayout whole fraction k c e ∧
      (if point ≤ 0 then '0' :: '.' :: (List.replicate point.natAbs '0' ++ ds)
        else if ds.length ≤ point.toNat then ds ++ List.replicate (point.toNat - ds.length) '0'
        else ds.take point.toNat ++ '.' :: ds.drop point.toNat) ++
          scaleMark (e + ds.length - point) =
        layoutText whole fraction k by
    obtain ⟨whole, fraction, k, layout, same⟩ := body
    exact ⟨whole, fraction, k, layout, by rw [← same]; simp⟩
  split
  · next front =>
    have run : ['0'] ++ (List.replicate point.natAbs '0' ++ ds) =
        List.replicate (point.natAbs + 1) '0' ++ ds := by
      simp [List.replicate_succ]
    refine ⟨['0'], List.replicate point.natAbs '0' ++ ds, e + ds.length - point,
      ⟨?_, by simp, ?_, ?_⟩, ?_⟩
    · simpa [isAsciiDigit] using digits
    · rw [run, numeralValue_zeros_append, value]
    · rw [List.length_append, List.length_replicate]
      omega
    · simp [layoutText, nonempty]
  · split
    · next behind =>
      have none : point.toNat - ds.length = 0 := by omega
      refine ⟨ds, [], e + ds.length - point,
        ⟨by simpa using digits, nonempty, by simpa using value, ?_⟩, ?_⟩
      · simp
        omega
      · simp [layoutText, none]
    · next within =>
      have cut : ds.drop point.toNat ≠ [] := by simpa using within
      refine ⟨ds.take point.toNat, ds.drop point.toNat, e + ds.length - point,
        ⟨by simpa using digits, ?_, by simpa using value, ?_⟩, ?_⟩
      · exact List.ne_nil_of_length_pos (by rw [List.length_take]; omega)
      · simp
        omega
      · simp [layoutText, cut]

theorem text_ne_nil (d : Decimal) : d.text ≠ [] := by
  cases d with
  | finite n c e =>
    obtain ⟨whole, fraction, k, layout, written⟩ := exists_isLayout n c e
    rw [text, written, layoutText]
    simp [layout.nonempty]
  | infinity n => simp [text]
  | nan n s p => simp [text]

/-- A whole number is written as its numeral. -/
theorem finiteText_whole (negative : Bool) (n : ℕ) :
    finiteText negative n 0 = (if negative then ['-'] else []) ++ numeral n := by
  have plain : (-6 : ℤ) < (numeral n).length := by omega
  simp [finiteText, plain, numeral_ne_nil]

/-! ### Reading a text back -/

theorem readScale?_scaleMark (k : ℤ) : readScale? (scaleMark k) = some k := by
  have digits := all_isAsciiDigit_numeral k.natAbs
  have nonempty := numeral_ne_nil k.natAbs
  unfold scaleMark
  split
  · next zero => exact zero ▸ rfl
  · by_cases below : k < 0
    · simp [readScale?, foldLetter, below, digits, nonempty, abs_of_neg below]
    · simp [readScale?, foldLetter, below, digits, nonempty, abs_of_nonneg (not_lt.mp below)]

/-- A layout is read as the coefficient and exponent that it lays out, if these can be held. -/
theorem readUnsigned?_layoutText (negative : Bool) {whole fraction : List Char} {k : ℤ}
    (layout : IsLayout whole fraction k c e) :
    readUnsigned? negative (layoutText whole fraction k) = hold? negative c e := by
  have digits := layout.digits
  have ends : EndsDigits (scaleMark k) ∧ (scaleMark k).head? ≠ some '.' := by
    unfold scaleMark
    split <;> simp [EndsDigits, isAsciiDigit]
  have number :=
    readNumber?_spelled negative fraction (scaleMark k) digits layout.nonempty ends.1 ends.2
  rw [readScale?_scaleMark, Option.bind_some, layout.coefficient, layout.exponent] at number
  rw [List.all_append, Bool.and_eq_true] at digits
  rw [layoutText, readUnsigned?_of_digits negative digits.1 layout.nonempty]
  exact number

/-- What stands in the text of a finite decimal. -/
theorem mem_finiteText {x : Char} (h : x ∈ finiteText negative c e) :
    isAsciiDigit x = true ∨ x ∈ ['-', '.', 'E', '+'] := by
  obtain ⟨whole, fraction, k, layout, text⟩ := exists_isLayout negative c e
  have digit : ∀ x ∈ whole ++ fraction, isAsciiDigit x = true := List.all_eq_true.mp layout.digits
  have mark : ∀ x ∈ scaleMark k, isAsciiDigit x = true ∨ x ∈ ['-', '.', 'E', '+'] := by
    unfold scaleMark
    split
    · nofun
    · refine List.forall_mem_cons.mpr ⟨by decide, List.forall_mem_cons.mpr ⟨?_, fun x hx => ?_⟩⟩
      · split <;> decide
      · exact .inl (isAsciiDigit_of_mem_numeral hx)
  rw [text, layoutText, List.mem_append, List.mem_append, List.mem_append] at h
  -- the four parts of the text
  obtain sign | front | point | behind := h
  · split at sign
    · obtain rfl := List.mem_singleton.mp sign
      exact .inr (by decide)
    · cases sign
  · exact .inl (digit x (List.mem_append_left _ front))
  · split at point
    · cases point
    · obtain rfl | point := List.mem_cons.mp point
      · exact .inr (by decide)
      · exact .inl (digit x (List.mem_append_right _ point))
  · exact mark x behind

/-- A finite decimal that can be held is read back from its text. -/
theorem read?_finiteText (held : (finite negative c e).IsHeld) :
    read? (finiteText negative c e) = some (finite negative c e) := by
  have kept : ∀ x ∈ finiteText negative c e, IsKept x := fun x hx => by
    obtain digit | mark := mem_finiteText hx
    · exact isKept_of_isAsciiDigit digit
    · simp only [List.mem_cons, List.not_mem_nil, or_false] at mark
      rcases mark with rfl | rfl | rfl | rfl <;> decide +kernel
  obtain ⟨whole, fraction, k, layout, text⟩ := exists_isLayout negative c e
  have unsigned := readUnsigned?_layoutText negative layout
  have digits := layout.digits
  rw [List.all_append, Bool.and_eq_true] at digits
  rw [IsHeld, ← unsigned] at held
  rw [read?_eq, cleaned_of_isKept kept, text, ← held]
  cases negative with
  | true => rfl
  | false => exact readSigned?_of_digits digits.1 layout.nonempty _

end QuotationPress.Decimal
