import QuotationPress.Context.Paths
import QuotationPress.Proofs.Number.Numeral
import QuotationPress.Proofs.Text.Digits

/-!
# The steps of a dotted path

`dotted` writes steps as a path, `splitAt_dotted` gets them back when none of them has a dot, and
`indexOfStep?_stepOfIndex` reads the step to a position of a list.
-/

namespace QuotationPress

/-! ### Dotted paths -/

/-- The path with these steps. -/
def dotted (steps : List String) : String := ".".intercalate steps

/-- A text that can stand between the dots of a path: there is something in it, and no dot. -/
structure IsStep (s : String) : Prop where
  nonempty : s ≠ ""
  dotless : '.' ∉ s.toList

instance (s : String) : Decidable (IsStep s) :=
  decidable_of_iff (s ≠ "" ∧ '.' ∉ s.toList) ⟨fun h => ⟨h.1, h.2⟩, fun h => ⟨h.nonempty, h.dotless⟩⟩

theorem splitChars_eq_splitOn (mark : Char) (cs : List Char) :
    Text.splitChars mark cs = cs.splitOn mark := by
  induction cs with
  | nil => rfl
  | cons c rest ih =>
    have nonempty := Text.splitChars_ne_nil mark rest
    rw [ih] at nonempty
    obtain ⟨part, parts, same⟩ := List.exists_cons_of_ne_nil nonempty
    rw [Text.splitChars, ih, same]
    unfold List.splitOn at same ⊢
    rw [List.splitOnP_cons_eq_if_modifyHead, same]
    by_cases h : c = mark <;> simp [h]

theorem toList_dotted (steps : List String) :
    (dotted steps).toList = ['.'].intercalate (steps.map String.toList) := by
  rw [dotted, String.toList_intercalate]
  rfl

/-- The steps are read off their path. -/
theorem splitAt_dotted {steps : List String} (h : ∀ s ∈ steps, IsStep s) (nonempty : steps ≠ []) :
    Text.splitAt '.' (dotted steps) = steps := by
  have dotless : ∀ cs ∈ steps.map String.toList, '.' ∉ cs := by
    intro cs hcs
    obtain ⟨s, hs, rfl⟩ := List.mem_map.mp hcs
    exact (h s hs).dotless
  rw [Text.splitAt, splitChars_eq_splitOn, toList_dotted,
    List.splitOn_intercalate '.' dotless (by simpa using nonempty), List.map_map]
  simp [Function.comp_def]

/-- Every text is the path of its steps. -/
theorem dotted_splitAt (path : String) : dotted (Text.splitAt '.' path) = path := by
  apply String.toList_injective
  rw [toList_dotted, Text.splitAt, List.map_map, splitChars_eq_splitOn]
  simp only [Function.comp_def, String.toList_ofList, List.map_id']
  exact List.intercalate_splitOn '.'

theorem dotted_eq_empty_iff {steps : List String} (h : ∀ s ∈ steps, IsStep s) :
    dotted steps = "" ↔ steps = [] := by
  constructor
  · intro empty
    cases steps with
    | nil => rfl
    | cons s rest =>
      have back := splitAt_dotted h (List.cons_ne_nil s rest)
      rw [empty] at back
      have first : s = "" := (List.cons.inj back).1.symm
      exact absurd first (h s List.mem_cons_self).nonempty
  · rintro rfl
    rfl

theorem intercalate_append_singleton {α : Type} (mark last : List α) {parts : List (List α)}
    (nonempty : parts ≠ []) :
    mark.intercalate (parts ++ [last]) = mark.intercalate parts ++ mark ++ last := by
  induction parts with
  | nil => exact absurd rfl nonempty
  | cons part rest ih =>
    cases rest with
    | nil => simp [List.intercalate_cons_cons, List.intercalate_singleton]
    | cons next more =>
      rw [List.cons_append, List.cons_append, List.intercalate_cons_cons, ← List.cons_append,
        ih (List.cons_ne_nil _ _), List.intercalate_cons_cons]
      simp

/-- The path of a part has one more step. -/
theorem pathBelow_dotted {steps : List String} (h : ∀ s ∈ steps, IsStep s) (step : String) :
    pathBelow (dotted steps) step = dotted (steps ++ [step]) := by
  by_cases none : steps = []
  · rw [none]
    rfl
  · have named : dotted steps ≠ "" := fun empty => none ((dotted_eq_empty_iff h).mp empty)
    rw [pathBelow, if_neg (by simpa using named)]
    apply String.toList_injective
    rw [toList_dotted, List.map_append, List.map_singleton,
      intercalate_append_singleton _ _ (by simpa using none), String.toList_append,
      String.toList_append, toList_dotted]
    rfl

/-! ### Positions -/

@[simp] theorem toList_stepOfIndex (i : ℕ) : (stepOfIndex i).toList = numeral i :=
  String.toList_ofList

/-- Different positions have different numerals. -/
theorem stepOfIndex_injective : Function.Injective stepOfIndex := by
  intro i j same
  have numerals : numeral i = numeral j := by
    rw [← toList_stepOfIndex, same, toList_stepOfIndex]
  rw [← numeralValue_numeral i, numerals, numeralValue_numeral]

theorem isStep_stepOfIndex (i : ℕ) : IsStep (stepOfIndex i) := by
  constructor
  · intro empty
    have none : numeral i = [] := by rw [← toList_stepOfIndex, empty]; rfl
    exact numeral_ne_nil i none
  · intro dot
    rw [toList_stepOfIndex] at dot
    have digit := isAsciiDigit_of_mem_numeral dot
    exact absurd digit (by decide)

/-- The numeral of a position is read as this position, if it is read at all. -/
theorem indexOfStep?_stepOfIndex (i : ℕ) : indexOfStep? (stepOfIndex i) =
    if numeralLimit < digitCount i then .error (.numeralTooLongToRead (digitCount i))
    else .ok (some i) := by
  have digits : ∀ c ∈ numeral i, Text.isAsciiDigit c = true := fun c => isAsciiDigit_of_mem_numeral
  have decimal : (numeral i).all Text.isDecimal = true :=
    List.all_eq_true.mpr fun c hc => Text.isDecimal_of_isAsciiDigit (digits c hc)
  have digitLike : (numeral i).all Text.isDigitLike = true :=
    List.all_eq_true.mpr fun c hc => by
      rw [Text.isDigitLike, Text.isDecimal_of_isAsciiDigit (digits c hc)]; rfl
  have kept : (numeral i).map Text.asciiDigit = numeral i := by
    rw [List.map_congr_left fun c hc => Text.asciiDigit_of_isAsciiDigit (digits c hc), List.map_id']
  have nonempty : (numeral i).isEmpty = false := by simpa using numeral_ne_nil i
  unfold indexOfStep?
  simp only [toList_stepOfIndex, nonempty, digitLike, decimal, kept, numeralValue_numeral]
  rfl

end QuotationPress
