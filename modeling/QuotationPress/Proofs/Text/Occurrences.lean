import Mathlib.Data.List.Infix

/-!
# How often a mark stands in a text

A character that is not in the mark, or begins it and is not in it again, parts a text into two of
which each has its own occurrences. A mark that goes on behind a quote mark stands in a quoted value
only where the quote opens: `occurrences_quoted`.
-/

namespace QuotationPress.Text

/-- How often the mark stands in the text. -/
def occurrences (mark : List Char) : List Char → ℕ
  | [] => 0
  | c :: cs => (if mark <+: c :: cs then 1 else 0) + occurrences mark cs

@[simp] theorem occurrences_nil (mark : List Char) : occurrences mark [] = 0 := rfl

/-- The text in front of the first mark and the text behind it; without a mark, the whole text and
nothing. -/
def cutAt (mark : List Char) : List Char → List Char × List Char
  | [] => ([], [])
  | c :: cs =>
    if mark <+: c :: cs then ([], (c :: cs).drop mark.length)
      else (c :: (cutAt mark cs).1, (cutAt mark cs).2)

variable {mark a b cs : List Char} {x : Char}

/-! ### Where a text is parted -/

/-- What has no such character ends in front of it. -/
theorem prefix_append_cons_iff (apart : x ∉ mark) : mark <+: a ++ x :: b ↔ mark <+: a := by
  induction a generalizing mark with
  | nil =>
    cases mark with
    | nil => simp
    | cons c mark => simp [(List.ne_of_not_mem_cons apart).symm]
  | cons d a ih =>
    cases mark with
    | nil => simp
    | cons c mark => simp [List.cons_prefix_cons, ih (List.not_mem_of_not_mem_cons apart)]

/-- A character that the mark has not parts a text in two. -/
theorem occurrences_append_cons (apart : x ∉ mark) (some : mark ≠ []) :
    occurrences mark (a ++ x :: b) = occurrences mark a + occurrences mark b := by
  induction a with
  | nil =>
    have nothing : ¬ mark <+: x :: b := fun h =>
      some (List.prefix_nil.mp ((prefix_append_cons_iff (a := []) apart).mp h))
    simp [occurrences, nothing]
  | cons c a ih =>
    have same : mark <+: c :: (a ++ x :: b) ↔ mark <+: c :: a :=
      prefix_append_cons_iff (a := c :: a) apart
    simp only [List.cons_append, occurrences, ih, same, Nat.add_assoc]

/-- The first character of a mark parts the text in front of it, when it does not come again. -/
theorem occurrences_append_head (once : x ∉ mark) :
    occurrences (x :: mark) (a ++ x :: b) = occurrences (x :: mark) a +
      occurrences (x :: mark) (x :: b) := by
  induction a with
  | nil => simp [occurrences]
  | cons c a ih =>
    have same : x :: mark <+: c :: (a ++ x :: b) ↔ x :: mark <+: c :: a := by
      rw [List.cons_prefix_cons, List.cons_prefix_cons, prefix_append_cons_iff once]
    rw [List.cons_append, occurrences, ih, ← Nat.add_assoc]
    simp only [same]
    rfl

/-- A mark that does not stand in a text does not occur in it. -/
theorem occurrences_eq_zero (free : ¬ mark <:+: cs) : occurrences mark cs = 0 := by
  induction cs with
  | nil => rfl
  | cons c cs ih =>
    rw [List.infix_cons_iff, not_or] at free
    rw [occurrences, if_neg free.1, ih free.2]

theorem occurrences_of_not_mem (inside : x ∈ mark) (outside : x ∉ cs) : occurrences mark cs = 0 :=
  occurrences_eq_zero fun h => outside (h.subset inside)

/-- The text is cut where the mark first stands. -/
theorem cutAt_append (once : x ∉ mark) (free : occurrences (x :: mark) a = 0) (b : List Char) :
    cutAt (x :: mark) (a ++ x :: mark ++ b) = (a, b) := by
  induction a with
  | nil =>
    have here : x :: mark <+: x :: (mark ++ b) := List.prefix_append (x :: mark) b
    rw [List.nil_append, List.cons_append, cutAt, if_pos here]
    simp
  | cons c a ih =>
    rw [occurrences, Nat.add_eq_zero_iff] at free
    obtain ⟨first, later⟩ := free
    -- the mark cannot begin in front and go on in itself
    have away : ¬ x :: mark <+: c :: (a ++ x :: mark ++ b) := by
      rw [List.append_assoc, List.cons_append, List.cons_prefix_cons, prefix_append_cons_iff once,
        ← List.cons_prefix_cons]
      intro h
      rw [if_pos h] at first
      cases first
    rw [List.cons_append, List.cons_append, cutAt, if_neg away, ih later]

/-! ### Quoted values -/

section Quoted

variable {word name value : List Char}

/-- Up to the first quote mark both are the same, and behind it the rest goes on. -/
theorem prefix_quote_iff (hword : x ∉ word) (ha : x ∉ a) :
    word ++ x :: name <+: a ++ x :: b ↔ word = a ∧ name <+: b := by
  induction a generalizing word with
  | nil =>
    cases word with
    | nil => simp
    | cons c word => simp [(List.ne_of_not_mem_cons hword).symm]
  | cons d a ih =>
    cases word with
    | nil => simp [List.ne_of_not_mem_cons ha]
    | cons c word =>
      simp [List.cons_prefix_cons,
        ih (List.not_mem_of_not_mem_cons hword) (List.not_mem_of_not_mem_cons ha), and_assoc]

/-- The mark stands around the first quote mark, or behind it. -/
theorem occurrences_append_quote (hword : x ∉ word) (ha : x ∉ a) :
    occurrences (word ++ x :: name) (a ++ x :: b) =
      (if word <:+ a ∧ name <+: b then 1 else 0) + occurrences (word ++ x :: name) b := by
  induction a with
  | nil =>
    have here : word ++ x :: name <+: x :: b ↔ word = [] ∧ name <+: b := prefix_quote_iff hword ha
    simp only [List.nil_append, occurrences, here, List.suffix_nil]
  | cons c a ih =>
    have here : word ++ x :: name <+: c :: (a ++ x :: b) ↔ word = c :: a ∧ name <+: b :=
      prefix_quote_iff hword ha
    have long : ¬ c :: a <:+ a := fun within => absurd within.length_le (by simp)
    rw [List.cons_append, occurrences, ih (List.not_mem_of_not_mem_cons ha), ← Nat.add_assoc]
    congr 1
    simp only [here, List.suffix_cons_iff]
    by_cases named : name <+: b
    · by_cases whole : word = c :: a
      · simp [named, whole, long]
      · simp [named, whole]
    · simp [named]

/-- In a text with one quoted value, the mark stands only where the text in front of the value ends
as the mark begins and the value begins as the mark ends. -/
theorem occurrences_quoted (hword : x ∉ word) (hname : x ∉ name) (some : name ≠ []) (ha : x ∉ a)
    (hvalue : x ∉ value) :
    occurrences (word ++ x :: name) (a ++ x :: (value ++ [x])) =
      if word <:+ a ∧ name <+: value then 1 else 0 := by
  have opening : name <+: value ++ [x] ↔ name <+: value := prefix_append_cons_iff hname
  rw [occurrences_append_quote hword ha, occurrences_append_quote hword hvalue]
  simp [occurrences, opening, some]

end Quoted

end QuotationPress.Text
