import QuotationPress.Proofs.Json.RoundTrip
import QuotationPress.Proofs.Number.DecimalText

/-!
# How the text of a value begins

A text is written as it stands and a finite number with digits. A day and a moment begin with the
day. Everything else begins with a character that tells it from a number, behind a minus sign if the
value has one: a word such as `None` or `inf`, a bracket, or the `b` of a byte text. `text_opening`
says which value begins how, and `text_ne_empty` is the part of it that says that something is
written.
-/

namespace QuotationPress

/-- A number has something in its text. -/
theorem Binary64.text_ne_nil (x : Binary64) : x.text ≠ [] := by
  intro empty
  cases finite : x.isFinite with
  | true =>
    obtain ⟨body, text, reads⟩ := Json.text_of_isFinite finite
    obtain rfl : body = [] := (List.append_eq_nil_iff.mp (text.symm.trans empty)).2
    have read := reads [] fun _ h => nomatch h
    cases read
  | false =>
    rw [Binary64.text, Binary64.textWith, finite] at empty
    split at empty
    · cases empty
    · simp at empty

namespace Value

/-- A number that is neither infinite nor undefined. -/
def IsFiniteNumber : Value → Prop
  | int _ => True
  | float x => x.isFinite = true
  | decimal d => d.isFinite = true
  | _ => False

/-- The characters that words and brackets of a listing begin with. -/
def openingMarks : List Char := ['N', 'T', 'F', 'n', 'i', 'I', 's', '[', '(', '\x7b', 'b']

/-- How a value begins. -/
inductive Opening : Value → List Char → Prop
  | text (s : String) : Opening (str s) s.toList
  | number {v : Value} {cs : List Char} (finite : v.IsFiniteNumber)
      (written : cs ≠ []) : Opening v cs
  | day {v : Value} (d : Date) (more : List Char) : Opening v (d.isoForm.toList ++ more)
  | mark {v : Value} {c : Char} (known : c ∈ openingMarks) (negative : Bool) (more : List Char) :
      Opening v ((if negative then ['-'] else []) ++ c :: more)

variable {α : Type} {v : Value} {s : String}

/-- A text that begins with a known mark opens so. -/
theorem opening_of_head? {c : Char} (known : c ∈ openingMarks) (first : s.toList.head? = some c) :
    v.Opening s.toList := by
  obtain ⟨more, start⟩ := List.head?_eq_some_iff.mp first
  rw [start]
  exact .mark known false more

/-- A text that is made of parts, once these are written, opens so if it does whatever they are. -/
theorem opening_of_parts {parts : Outcome α} {f : α → String}
    (h : (parts >>= fun ps => .ok (f ps)) = .ok s) {c : Char} (known : c ∈ openingMarks)
    (first : ∀ ps, (f ps).toList.head? = some c) : v.Opening s.toList := by
  obtain ⟨ps, -, h⟩ := Outcome.bind_eq_ok.mp h
  obtain rfl := Except.ok.inj h
  exact opening_of_head? known (first ps)

/-- Every numeral has a digit. -/
theorem intText_ne_nil {i : ℤ} (h : intText i = .ok s) : s.toList ≠ [] := by
  unfold intText at h
  split at h
  · cases h
  · rw [← Except.ok.inj h]
    unfold intNumeral
    split <;> simp [numeral_ne_nil]

/-- A float opens as a number if it is finite, and else with a mark, maybe behind a sign. -/
theorem opening_float (x : Binary64) : (float x).Opening x.text := by
  cases finite : x.isFinite with
  | true => exact .number finite x.text_ne_nil
  | false =>
    rw [Binary64.text, Binary64.textWith, finite]
    split
    · exact .mark (c := 'n') (by decide) false _
    · exact .mark (c := 'i') (by decide) x.negative _

/-- So does a decimal. -/
theorem opening_decimal (d : Decimal) : (decimal d).Opening d.text := by
  obtain ⟨negative, c, e⟩ | negative | ⟨negative, signaling, payload⟩ := d
  · exact .number rfl (Decimal.text_ne_nil _)
  · exact .mark (c := 'I') (by decide) negative _
  · rw [Decimal.text, List.append_assoc, List.append_assoc]
    cases signaling
    · exact .mark (c := 'N') (by decide) negative _
    · exact .mark (c := 's') (by decide) negative _

/-- The text of a value begins as its kind says. -/
theorem text_opening (h : v.text = .ok s) : v.Opening s.toList := by
  cases v with
  | str t =>
    obtain rfl := Except.ok.inj h
    exact .text t
  | int i => exact .number trivial (intText_ne_nil h)
  | float x =>
    obtain rfl := Except.ok.inj h
    simpa using opening_float x
  | decimal d =>
    obtain rfl := Except.ok.inj h
    simpa using opening_decimal d
  | date d =>
    obtain rfl := Except.ok.inj h
    simpa using Opening.day (v := .date d) d []
  | moment m =>
    obtain rfl := Except.ok.inj h
    simp only [Moment.isoWith, String.toList_ofList, List.append_assoc]
    exact .day m.date _
  -- what is left are words and brackets
  | null =>
    obtain rfl := Except.ok.inj h
    exact opening_of_head? (c := 'N') (by decide) rfl
  | bool b =>
    obtain rfl := Except.ok.inj h
    cases b
    · exact opening_of_head? (c := 'F') (by decide) rfl
    · exact opening_of_head? (c := 'T') (by decide) rfl
  | list xs => exact opening_of_parts h (c := '[') (by decide) (by simp)
  | tuple xs =>
    rcases xs with _ | ⟨x, _ | ⟨y, rest⟩⟩
    · obtain rfl := Except.ok.inj h
      exact opening_of_head? (c := '(') (by decide) rfl
    · exact opening_of_parts h (c := '(') (by decide) (by simp)
    · exact opening_of_parts h (c := '(') (by decide) (by simp)
  | obj fs => exact opening_of_parts h (c := '\x7b') (by decide) (by simp)
  | keyed es => exact opening_of_parts h (c := '\x7b') (by decide) (by simp)
  | bytes bs =>
    obtain rfl := Except.ok.inj h
    exact opening_of_head? (c := 'b') (by decide)
      (by rw [Text.quotedBytes, String.toList_ofList]; rfl)
  | keySet ks =>
    cases ks with
    | nil =>
      obtain rfl := Except.ok.inj h
      exact opening_of_head? (c := 's') (by decide) rfl
    | cons k rest =>
      obtain rfl := Except.ok.inj h
      exact opening_of_head? (c := '\x7b') (by decide) (by simp)

/-- No value but the empty text is written as nothing. -/
theorem text_ne_empty (h : v.text = .ok s) (given : v ≠ .str "") : s ≠ "" := by
  intro empty
  have opening := text_opening h
  rw [empty] at opening
  generalize written : "".toList = cs at opening
  cases opening with
  | text t => exact given (congrArg str (String.toList_inj.mp written.symm))
  | number _ some => exact some written.symm
  | day d more => simp [Date.isoForm] at written
  | mark _ negative more => simp at written

end Value

end QuotationPress
