import QuotationPress.Calendar.Iso
import QuotationPress.Proofs.Calendar.Ordinals
import QuotationPress.Proofs.Number.Numeral
import QuotationPress.Proofs.Text.Digits

/-!
# Texts that name a day in ISO form

Whatever is read begins with the four digits of a year (`beginsWithYear_of_readMoment?`,
`beginsWithYear_of_readDate?`). A day that is written out is read back, and what stands behind it
decides only whether there is a time of day as well (`date_of_readMoment?_isoForm`,
`readDate?_isoForm`).
-/

namespace QuotationPress

open Text (isAsciiDigit)

namespace Date

variable {d : Date}

theorem toList_isoForm (d : Date) :
    d.isoForm.toList = padded 4 d.year ++ '-' :: padded 2 d.month ++ '-' :: padded 2 d.day :=
  String.toList_ofList

theorem length_isoForm (d : Date) : d.isoForm.toList.length = 10 := by
  obtain ⟨⟨-, hy⟩, ⟨-, hm⟩, -, hd⟩ := d.inCalendar
  rw [toList_isoForm]
  simp only [List.length_append, List.length_cons,
    length_padded 4 (by decide) (Nat.lt_succ_of_le hy),
    length_padded 2 (n := d.month) (by decide) (by omega),
    length_padded 2 (n := d.day) (by decide) (by omega)]

theorem mem_isoForm {c : Char} (h : c ∈ d.isoForm.toList) : isAsciiDigit c = true ∨ c = '-' := by
  have digit (width n : ℕ) (hc : c ∈ padded width n) : isAsciiDigit c = true :=
    List.all_eq_true.mp (all_isAsciiDigit_padded width n) c hc
  rw [toList_isoForm, List.append_assoc] at h
  simp only [List.cons_append, List.mem_append, List.mem_cons] at h
  obtain h | h | h | h | h := h
  · exact .inl (digit _ _ h)
  · exact .inr h
  · exact .inl (digit _ _ h)
  · exact .inr h
  · exact .inl (digit _ _ h)

end Date

namespace Iso

variable {cs rest : List Char} {d : Date}

/-- A fixed number of digits is read exactly if the text begins with so many. -/
theorem digits?_eq_some_iff {count n : ℕ} : digits? count cs = some (n, rest) ↔
    ∃ ds, cs = ds ++ rest ∧ ds.length = count ∧ ds.all isAsciiDigit = true ∧
      numeralValue ds = n := by
  simp only [digits?, Bool.and_eq_true, decide_eq_true_eq, Option.ite_none_right_eq_some,
    Option.some.injEq, Prod.mk.injEq]
  constructor
  · rintro ⟨⟨size, digits⟩, value, rfl⟩
    exact ⟨cs.take count, (List.take_append_drop count cs).symm, size, digits, value⟩
  · rintro ⟨ds, rfl, rfl, digits, value⟩
    rw [List.take_left, List.drop_left]
    exact ⟨⟨rfl, digits⟩, value, rfl⟩

/-- A padded numeral is read back, whatever follows. -/
theorem digits?_padded (width : ℕ) {n : ℕ} (pos : 0 < width) (small : n < 10 ^ width)
    (rest : List Char) :
    digits? width (padded width n ++ rest) = some (n, rest) :=
  digits?_eq_some_iff.mpr
    ⟨_, rfl, length_padded width pos small, all_isAsciiDigit_padded width n,
      numeralValue_padded width n⟩

/-! ### What is read begins with a year -/

/-- Four digits stand in front. -/
def BeginsWithYear (cs : List Char) : Prop :=
  ∃ ds rest, cs = ds ++ rest ∧ ds.length = 4 ∧ ds.all isAsciiDigit = true

theorem BeginsWithYear.append (h : BeginsWithYear cs) (more : List Char) :
    BeginsWithYear (cs ++ more) := by
  obtain ⟨ds, rest, rfl, size, digits⟩ := h
  exact ⟨ds, rest ++ more, List.append_assoc .., size, digits⟩

theorem BeginsWithYear.of_take {n : ℕ} (h : BeginsWithYear (cs.take n)) : BeginsWithYear cs :=
  List.take_append_drop n cs ▸ h.append (cs.drop n)

/-- There is no year where another character stands behind fewer than four others. -/
theorem not_beginsWithYear {ds : List Char} {c : Char} (short : ds.length < 4)
    (other : isAsciiDigit c = false) (rest : List Char) : ¬ BeginsWithYear (ds ++ c :: rest) := by
  rintro ⟨es, more, same, size, digits⟩
  have at_c : es[ds.length]? = some c :=
    calc es[ds.length]? = (es ++ more)[ds.length]? :=
        (List.getElem?_append_left (size ▸ short)).symm
      _ = (ds ++ c :: rest)[ds.length]? := by rw [same]
      _ = some c := by simp
  have digit : isAsciiDigit c = true := List.all_eq_true.mp digits c (List.mem_of_getElem? at_c)
  rw [other] at digit
  cases digit

theorem beginsWithYear_of_dateOfSize? {size : ℕ} (h : dateOfSize? size cs = some d) :
    BeginsWithYear cs := by
  obtain ⟨⟨year, rest⟩, read, -⟩ := Option.bind_eq_some_iff.mp h
  obtain ⟨ds, cut, size, digits, -⟩ := digits?_eq_some_iff.mp read
  exact ⟨ds, rest, cut, size, digits⟩

theorem beginsWithYear_of_readDate? (h : readDate? cs = some d) : BeginsWithYear cs := by
  dsimp only [readDate?] at h
  split at h
  · exact beginsWithYear_of_dateOfSize? h
  · cases h

/-- The day of a moment is the date in front of its time. -/
theorem dateOfSize?_of_readMoment? {m : Moment} (h : readMoment? cs = some m) :
    dateOfSize? (dateSize cs) cs = some m.date := by
  obtain ⟨d, date, h⟩ := Option.bind_eq_some_iff.mp h
  suffices same : m.date = d by rw [date, same]
  split at h
  · rw [← Option.some.inj h]
    rfl
  · obtain ⟨⟨clock, offset⟩, -, h⟩ := Option.bind_eq_some_iff.mp h
    dsimp only at h
    split at h
    · rw [← Option.some.inj h]
    · cases h

theorem beginsWithYear_of_readMoment? {m : Moment} (h : readMoment? cs = some m) :
    BeginsWithYear cs :=
  beginsWithYear_of_dateOfSize? (dateOfSize?_of_readMoment? h)

/-! ### Days that are written out -/

/-- A date that is written out is read back. -/
theorem dateOfSize?_isoForm (size : ℕ) (d : Date) (rest : List Char) :
    dateOfSize? size (d.isoForm.toList ++ rest) = some d := by
  obtain ⟨⟨-, hy⟩, ⟨-, hm⟩, -, hd⟩ := d.inCalendar
  have year := digits?_padded 4 (by decide) (Nat.lt_succ_of_le hy)
    ('-' :: (padded 2 d.month ++ '-' :: (padded 2 d.day ++ rest)))
  have month :=
    digits?_padded 2 (n := d.month) (by decide) (by omega) ('-' :: (padded 2 d.day ++ rest))
  have day := digits?_padded 2 (n := d.day) (by decide) (by omega) rest
  have text : d.isoForm.toList ++ rest =
      padded 4 d.year ++ '-' :: (padded 2 d.month ++ '-' :: (padded 2 d.day ++ rest)) := by
    rw [Date.toList_isoForm]
    simp only [List.append_assoc, List.cons_append]
  -- a digit stands behind the first mark, so that this is no week date
  obtain ⟨c, cs, digits⟩ := List.exists_cons_of_ne_nil (padded_ne_nil 2 d.month)
  have no_week : c ≠ 'W' := by
    have all := all_isAsciiDigit_padded 2 d.month
    rw [digits] at all
    exact Text.ne_of_isAsciiDigit (List.all_eq_true.mp all c List.mem_cons_self) rfl
  rw [digits, List.cons_append] at month
  rw [dateOfSize?, text, year, Option.bind_some, digits]
  simp [month, day, no_week, Date.of?_self]

/-- A moment that begins with a day falls on this day. -/
theorem date_of_readMoment?_isoForm {m : Moment}
    (h : readMoment? (d.isoForm.toList ++ rest) = some m) : m.date = d := by
  have date := dateOfSize?_of_readMoment? h
  rw [dateOfSize?_isoForm] at date
  exact (Option.some.inj date).symm

@[simp] theorem byteLength_cons (c : Char) (cs : List Char) :
    byteLength (c :: cs) = c.utf8Size + byteLength cs := rfl

theorem byteLength_eq_length (h : ∀ c ∈ cs, c.utf8Size = 1) : byteLength cs = cs.length := by
  induction cs with
  | nil => rfl
  | cons c cs ih =>
    obtain ⟨one, others⟩ := List.forall_mem_cons.mp h
    rw [byteLength_cons, one, ih others, List.length_cons, Nat.add_comm]

theorem byteLength_isoForm (d : Date) : byteLength d.isoForm.toList = 10 := by
  rw [← d.length_isoForm]
  refine byteLength_eq_length fun c hc => Char.utf8Size_eq_one_iff.mpr ?_
  obtain digit | rfl := Date.mem_isoForm hc
  · obtain ⟨-, high⟩ := Text.toNat_of_isAsciiDigit digit
    exact UInt32.le_iff_toNat_le.mpr (high.trans (by decide))
  · decide

/-- A day is read back from its text. -/
theorem readDate?_isoForm (d : Date) : readDate? d.isoForm.toList = some d := by
  have date := dateOfSize?_isoForm 10 d []
  rw [List.append_nil] at date
  simp [readDate?, byteLength_isoForm, date]

end Iso

end QuotationPress
