import Mathlib.Data.List.Basic
import QuotationPress.Number.Grouping
import QuotationPress.Proofs.Number.Numeral

/-!
# Grouped numerals

`IsGrouping` says what a number looks like in lakhs and crores, and `isGrouping_grouped` that
`grouped` writes it so.
-/

namespace QuotationPress

open Text (isAsciiDigit)

/-- The text is the numeral of `n` with commas in front of the last three digits and of every second
digit before. -/
structure IsGrouping (text : List Char) (n : ℕ) : Prop where
  chars : ∀ c ∈ text, isAsciiDigit c = true ∨ c = ','
  digits : text.filter (· ≠ ',') = numeral n
  short : n < 1000 → text.splitOn ',' = [numeral n]
  groups : 1000 ≤ n → ∃ first pairs last, text.splitOn ',' = first :: (pairs ++ [last]) ∧
    (first.length = 1 ∨ first.length = 2) ∧ (∀ pair ∈ pairs, pair.length = 2) ∧ last.length = 3

theorem comma_not_mem_numeral (n : ℕ) : ',' ∉ numeral n :=
  fun h => absurd (isAsciiDigit_of_mem_numeral h) (by decide)

theorem filter_numeral (n : ℕ) : (numeral n).filter (· ≠ ',') = numeral n :=
  List.filter_eq_self.mpr fun c hc => by
    have other : c ≠ ',' := fun h => comma_not_mem_numeral n (h ▸ hc)
    simpa using other

theorem splitOn_append_cons (mark : Char) (as bs : List Char) :
    (as ++ mark :: bs).splitOn mark = as.splitOn mark ++ bs.splitOn mark :=
  List.splitOnP_append_cons as bs (by simp)

/-- All groups of digits in pairs have two digits except the first. -/
theorem splitOn_pairsReversed {rev : List Char} (nonempty : rev ≠ []) (digits : ',' ∉ rev) :
    ∃ first pairs, (pairsReversed rev).reverse.splitOn ',' = first :: pairs ∧
      (first.length = 1 ∨ first.length = 2) ∧ ∀ pair ∈ pairs, pair.length = 2 := by
  fun_induction pairsReversed rev with
  | case1 a b c rest ih =>
    simp only [List.mem_cons, not_or] at digits
    obtain ⟨no_a, no_b, no_c, no_rest⟩ := digits
    obtain ⟨first, pairs, split, one_or_two, two⟩ := ih (by simp) (by simp [no_c, no_rest])
    refine ⟨first, pairs ++ [[b, a]], ?_, one_or_two, ?_⟩
    · have pair : ',' ∉ [b, a] := by simp [no_a, no_b]
      have text : (a :: b :: ',' :: pairsReversed (c :: rest)).reverse =
          (pairsReversed (c :: rest)).reverse ++ ',' :: [b, a] := by simp
      rw [text, splitOn_append_cons, split, List.splitOn_eq_singleton pair, List.cons_append]
    · simpa [or_imp, forall_and] using two
  | case2 rev short =>
    refine ⟨rev.reverse, [], List.splitOn_eq_singleton (by simpa using digits), ?_, by simp⟩
    -- the first group is what is left: one digit or two
    obtain - | ⟨a, - | ⟨b, - | ⟨c, rest⟩⟩⟩ := rev
    · exact absurd rfl nonempty
    · exact .inl rfl
    · exact .inr rfl
    · exact absurd rfl (short a b c rest)

/-- Three digits are one group. -/
theorem grouped_of_short {ds : List Char} (h : ds.length ≤ 3) : grouped ds = ds := by
  unfold grouped
  split
  · next reversed =>
    have := congrArg List.length reversed
    simp at this
    omega
  · rfl

/-- The last three digits stand behind a comma. -/
theorem grouped_append {head last : List Char} (nonempty : head ≠ []) (three : last.length = 3) :
    grouped (head ++ last) = (pairsReversed head.reverse).reverse ++ ',' :: last := by
  obtain ⟨x, y, z, rfl⟩ := List.length_eq_three.mp three
  obtain ⟨d, rest, reversed⟩ := List.exists_cons_of_ne_nil (List.reverse_ne_nil_iff.mpr nonempty)
  have whole : (head ++ [x, y, z]).reverse = z :: y :: x :: d :: rest := by simp [reversed]
  rw [grouped, whole, reversed]

/-- A grouped numeral has the digits of the number in groups. -/
theorem isGrouping_grouped (n : ℕ) : IsGrouping (grouped (numeral n)) n := by
  have digits : (grouped (numeral n)).filter (· ≠ ',') = numeral n := by
    rw [grouped_filter, filter_numeral]
  refine ⟨fun c hc => ?_, digits, fun small => ?_, fun large => ?_⟩
  · by_cases comma : c = ','
    · exact .inr comma
    · refine .inl (isAsciiDigit_of_mem_numeral (n := n) ?_)
      rw [← digits]
      exact List.mem_filter.mpr ⟨hc, by simpa using comma⟩
  · have count : digitCount n ≤ 3 := (digitCount_le_iff (by decide)).mpr small
    rw [grouped_of_short count, List.splitOn_eq_singleton (comma_not_mem_numeral n)]
  · have count : ¬ digitCount n ≤ 3 :=
      fun h => absurd ((digitCount_le_iff (by decide)).mp h) (by omega)
    have cut : 3 < (numeral n).length := not_le.mp count
    have parts := List.take_append_drop ((numeral n).length - 3) (numeral n)
    have head : (numeral n).take ((numeral n).length - 3) ≠ [] := by
      rw [ne_eq, List.take_eq_nil_iff]
      simp [numeral_ne_nil]
      omega
    have three : ((numeral n).drop ((numeral n).length - 3)).length = 3 := by
      rw [List.length_drop]
      omega
    have no_comma := comma_not_mem_numeral n
    generalize (numeral n).take ((numeral n).length - 3) = first at parts head
    generalize (numeral n).drop ((numeral n).length - 3) = last at parts three
    rw [← parts, List.mem_append, not_or] at no_comma
    -- all but the last three digits go in pairs
    obtain ⟨group, pairs, split, one_or_two, two⟩ :=
      splitOn_pairsReversed (List.reverse_ne_nil_iff.mpr head) (by simpa using no_comma.1)
    refine ⟨group, pairs, last, ?_, one_or_two, two, three⟩
    rw [← parts, grouped_append head three, splitOn_append_cons, split,
      List.splitOn_eq_singleton no_comma.2, List.cons_append]

end QuotationPress
