import QuotationPress.Proofs.Calendar.IsoTexts
import QuotationPress.Proofs.Text.Trim
import QuotationPress.Quotation.Record

/-!
# Dates in words

No day in words is read as a day (`Format.readDay?_longForm`), for what is read begins with a year
of four digits. `Record.dayOf?_str` says that the record takes a day from the texts that are
formatted as dates and from no others. From both follows `longDate_settled_and_alike`.
-/

namespace QuotationPress

open Text (isBlank isAsciiDigit)
open Iso (BeginsWithYear)

namespace Date

theorem toList_longForm (d : Date) :
    d.longForm.toList = numeral d.day ++
      ' ' :: ((monthName d.month).toList ++ ' ' :: numeral d.year) := by
  rw [longForm, String.toList_ofList, List.append_assoc, List.cons_append]

/-- There are no blanks around a day in words. -/
theorem trim_longForm (d : Date) : Text.trim d.longForm.toList = d.longForm.toList := by
  have inked (n : ℕ) : ∀ c ∈ numeral n, isBlank c = false := fun c hc =>
    Text.isBlank_of_isAsciiDigit (isAsciiDigit_of_mem_numeral hc)
  have cut : d.longForm.toList =
      numeral d.day ++ (' ' :: ((monthName d.month).toList ++ [' ']) ++ numeral d.year) := by
    rw [toList_longForm]
    simp only [List.cons_append, List.append_assoc, List.nil_append]
  rw [cut, Text.trim_append_right (numeral_ne_nil d.day) (inked d.day),
    Text.trimRight_of_inked _ (numeral_ne_nil d.year) (inked d.year)]

end Date

namespace Format

variable {cs rest : List Char} {s : String} {d : Date}

/-! ### The mark of universal time -/

theorem expandZulu_append (as bs : List Char) :
    expandZulu (as ++ bs) = expandZulu as ++ expandZulu bs :=
  List.flatMap_append

theorem expandZulu_cons_of_ne {c : Char} (h : c ≠ 'Z') (cs : List Char) :
    expandZulu (c :: cs) = c :: expandZulu cs := by
  rw [expandZulu, List.flatMap_cons, if_neg h]
  rfl

theorem expandZulu_eq_self (h : ∀ c ∈ cs, c ≠ 'Z') : expandZulu cs = cs := by
  induction cs with
  | nil => rfl
  | cons c cs ih =>
    obtain ⟨other, others⟩ := List.forall_mem_cons.mp h
    rw [expandZulu_cons_of_ne other, ih others]

/-- Digits in front of the expanded text stand in front of the text itself: none of them comes from
a mark. -/
theorem exists_append_of_expandZulu {ds : List Char} (digits : ∀ c ∈ ds, isAsciiDigit c = true)
    (h : expandZulu cs = ds ++ rest) : ∃ more, cs = ds ++ more := by
  induction ds generalizing cs with
  | nil => exact ⟨cs, rfl⟩
  | cons c ds ih =>
    obtain ⟨digit, others⟩ := List.forall_mem_cons.mp digits
    cases cs with
    | nil => cases h
    | cons c' cs =>
      by_cases mark : c' = 'Z'
      · obtain ⟨rfl, -⟩ : '+' = c ∧ _ := List.cons_eq_cons.mp (mark ▸ h)
        cases digit
      · rw [expandZulu_cons_of_ne mark, List.cons_append, List.cons_eq_cons] at h
        obtain ⟨rfl, h⟩ := h
        obtain ⟨more, rfl⟩ := ih others h
        exact ⟨more, rfl⟩

/-- The mark for the zone is in no year. -/
theorem beginsWithYear_of_expandZulu (h : BeginsWithYear (expandZulu cs)) : BeginsWithYear cs := by
  obtain ⟨ds, rest, cut, size, digits⟩ := h
  obtain ⟨more, rfl⟩ := exists_append_of_expandZulu (List.all_eq_true.mp digits) cut
  exact ⟨ds, more, rfl, size, digits⟩

/-! ### Texts that name a day -/

/-- A text that names a day begins with a year. -/
theorem beginsWithYear_of_readDay? (h : readDay? s = some d) :
    BeginsWithYear (Text.trim s.toList) := by
  dsimp only [readDay?] at h
  split at h
  · next m read => exact beginsWithYear_of_expandZulu (Iso.beginsWithYear_of_readMoment? read)
  · exact (Iso.beginsWithYear_of_readDate? h).of_take

/-- No day is read from a day in words: there is a blank behind one digit or two. -/
theorem readDay?_longForm (d : Date) : readDay? d.longForm = none := by
  refine Option.eq_none_iff_forall_ne_some.mpr fun d' read => ?_
  have year := beginsWithYear_of_readDay? read
  have short : (numeral d.day).length ≤ 2 := by
    obtain ⟨-, -, -, hd⟩ := d.inCalendar
    exact (digitCount_le_iff (by decide)).mpr (by omega)
  rw [Date.trim_longForm, Date.toList_longForm] at year
  exact Iso.not_beginsWithYear (by omega) (by decide) _ year

/-- A text that begins with a day as it is written out names this day, whatever follows. -/
theorem readDay?_isoForm (d : Date) (more : String) : readDay? (d.isoForm ++ more) = some d := by
  have inked : ∀ c ∈ d.isoForm.toList, isBlank c = false := fun c hc => by
    obtain digit | rfl := Date.mem_isoForm hc
    · exact Text.isBlank_of_isAsciiDigit digit
    · decide
  have unmarked : ∀ c ∈ d.isoForm.toList, c ≠ 'Z' := fun c hc => by
    obtain digit | rfl := Date.mem_isoForm hc
    · exact Text.ne_of_isAsciiDigit digit rfl
    · decide
  have nonempty : d.isoForm.toList ≠ [] :=
    List.ne_nil_of_length_pos (by rw [Date.length_isoForm]; decide)
  -- whatever follows, the first ten characters are the day
  have front : (d.isoForm.toList ++ Text.trimRight more.toList).take 10 = d.isoForm.toList :=
    List.take_left' d.length_isoForm
  rw [readDay?, String.toList_append, Text.trim_append_right nonempty inked, expandZulu_append,
    expandZulu_eq_self unmarked, front, Iso.readDate?_isoForm]
  split
  · next m read => rw [Iso.date_of_readMoment?_isoForm read]
  · rfl

end Format

/-- The record takes a day from a text exactly if the text is formatted as this day. -/
theorem Record.dayOf?_str (s : String) : dayOf? (.str s) = Format.readDay? s := by
  dsimp only [dayOf?, Format.readDay?]
  split
  · next blank =>
    rw [List.isEmpty_iff.mp blank]
    rfl
  · cases Iso.readMoment? (Format.expandZulu (Text.trim s.toList)) <;> rfl

/-! ### Formatting -/

namespace Format

/-- A field for a day: nothing, a text, a date or a moment. -/
inductive IsDayField : Value → Prop
  | missing : IsDayField .null
  | text (s : String) : IsDayField (.str s)
  | date (d : Date) : IsDayField (.date d)
  | moment (m : Moment) : IsDayField (.moment m)

theorem longDate_of_readDay? (h : readDay? s = some d) : longDate (.str s) = .ok d.longForm := by
  rw [longDate, h]

/-- A text is left alone exactly if it names no day. -/
theorem longDate_eq_self_iff : longDate (.str s) = .ok s ↔ readDay? s = none := by
  constructor
  · intro same
    cases read : readDay? s with
    | none => rfl
    | some d =>
      rw [longDate_of_readDay? read] at same
      rw [← Except.ok.inj same, readDay?_longForm] at read
      cases read
  · intro unread
    rw [longDate, unread]

/-- A long form is left alone: it begins with one or two digits, no year. -/
theorem longDate_longForm (d : Date) : longDate (.str d.longForm) = .ok d.longForm :=
  longDate_eq_self_iff.mpr (readDay?_longForm d)

/-- What is formatted as a date is left as it is when it is formatted once more. A text from which
the record takes a day is formatted as this day, and one from which it takes none is left as it is,
and no other: the two readers take the same texts. All those that begin with a day in ISO form are
among them. -/
theorem longDate_settled_and_alike :
    (∀ v, IsDayField v → ∃ text, longDate v = .ok text ∧ longDate (.str text) = .ok text) ∧
    (∀ s, (∀ d, Record.dayOf? (.str s) = some d → longDate (.str s) = longDate (.date d)) ∧
      (Record.dayOf? (.str s) = none ↔ longDate (.str s) = .ok s)) ∧
    ∀ (d : Date) (more : String), Record.dayOf? (.str (d.isoForm ++ more)) = some d := by
  refine ⟨fun v field => ?_, fun s => ?_, fun d more => ?_⟩
  · cases field with
    | missing => exact ⟨"", rfl, longDate_eq_self_iff.mpr (by decide)⟩
    | text s =>
      cases read : readDay? s with
      | none => exact ⟨s, longDate_eq_self_iff.mpr read, longDate_eq_self_iff.mpr read⟩
      | some d => exact ⟨d.longForm, longDate_of_readDay? read, longDate_longForm d⟩
    | date d => exact ⟨d.longForm, rfl, longDate_longForm d⟩
    | moment m => exact ⟨m.date.longForm, rfl, longDate_longForm m.date⟩
  · rw [Record.dayOf?_str]
    exact ⟨fun d read => longDate_of_readDay? read, longDate_eq_self_iff.symm⟩
  · rw [Record.dayOf?_str, readDay?_isoForm]

/-- A moment in universal time is formatted as its day, and a text that names no day is left as it
is. -/
theorem zuluMorning_formatted :
    IsDayField (.str "2026-01-05T10:00:00Z") ∧
      Record.dayOf? (.str "2026-01-05T10:00:00Z") = some { year := 2026, month := 1, day := 5 } ∧
      longDate (.str "2026-01-05T10:00:00Z") = .ok "5 January 2026" ∧
      longDate (.str "5 January 2026") = .ok "5 January 2026" ∧
      Record.dayOf? (.str "next week") = none ∧ longDate (.str "next week") = .ok "next week" := by
  obtain ⟨settled, alike, -⟩ := longDate_settled_and_alike
  have field := IsDayField.text "2026-01-05T10:00:00Z"
  have day : Record.dayOf? (.str "2026-01-05T10:00:00Z") =
      some { year := 2026, month := 1, day := 5 } := by
    decide +kernel
  have none : Record.dayOf? (.str "next week") = none := by decide +kernel
  have words : longDate (.str "2026-01-05T10:00:00Z") = .ok "5 January 2026" := (alike _).1 _ day
  obtain ⟨text, once, again⟩ := settled _ field
  obtain rfl : text = "5 January 2026" := Except.ok.inj (once.symm.trans words)
  exact ⟨field, day, words, again, none, (alike _).2.mp none⟩

/-- A whole number is no field for a day: its digits may name one. -/
example :
    longDate (.int 20261019) = .ok "20261019" ∧
      longDate (.str "20261019") = .ok "19 October 2026" :=
  ⟨rfl, rfl⟩

end Format

end QuotationPress
