import QuotationPress.Number.Numeral

/-!
# Grouping of digits in lakhs and crores

The last group has three digits, every other group two, except the first, which may have one.
`grouped` inserts the commas.
-/

namespace QuotationPress

/-- Commas before every second digit, counted from the right; `rev` holds the digits last first. -/
def pairsReversed : List Char → List Char
  | a :: b :: c :: rest => a :: b :: ',' :: pairsReversed (c :: rest)
  | short => short

def grouped (digits : List Char) : List Char :=
  match digits.reverse with
  | a :: b :: c :: d :: rest => (pairsReversed (d :: rest)).reverse ++ [',', c, b, a]
  | _ => digits

theorem pairsReversed_filter (cs : List Char) :
    (pairsReversed cs).filter (· ≠ ',') = cs.filter (· ≠ ',') := by
  fun_induction pairsReversed cs with
  | case1 a b c rest ih =>
    rw [List.filter_cons, List.filter_cons, List.filter_cons, ih]
    simp [List.filter_cons]
  | case2 => rfl

theorem grouped_filter (cs : List Char) : (grouped cs).filter (· ≠ ',') = cs.filter (· ≠ ',') := by
  unfold grouped
  split
  · rename_i a b c d rest h
    have h' : cs = (a :: b :: c :: d :: rest).reverse := by rw [← h, List.reverse_reverse]
    rw [List.filter_append, List.filter_reverse, pairsReversed_filter, h']
    simp only [List.reverse_cons, List.filter_append, List.filter_reverse, List.append_assoc]
    by_cases hd : d = ',' <;> by_cases hc : c = ',' <;> by_cases hb : b = ',' <;>
      by_cases ha : a = ',' <;> simp [ha, hb, hc, hd]
  · rfl

end QuotationPress
