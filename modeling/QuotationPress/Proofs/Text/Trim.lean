import QuotationPress.Text.Blank

/-!
# Trimming at the ends of a text

A text is trimmed on the left up to its first character that is no blank (`trimLeft_append`) and on
the right behind its last one (`trimRight_append`).
-/

namespace QuotationPress.Text

variable {as bs : List Char}

/-- Trimming on the left stops at the first character that is no blank. -/
theorem trimLeft_append (as : List Char) (h : ∀ c ∈ bs.head?, isBlank c = false) :
    trimLeft (as ++ bs) = trimLeft as ++ bs := by
  induction as with
  | nil =>
    cases bs with
    | nil => rfl
    | cons c bs => simp [trimLeft, h c rfl]
  | cons c as ih =>
    unfold trimLeft at ih ⊢
    cases blank : isBlank c <;> simp [blank, ih]

/-- Trimming on the right stops at the last one. -/
theorem trimRight_append (h : ∀ c ∈ as.getLast?, isBlank c = false) (bs : List Char) :
    trimRight (as ++ bs) = as ++ trimRight bs := by
  have reversed : trimLeft (bs.reverse ++ as.reverse) = trimLeft bs.reverse ++ as.reverse :=
    trimLeft_append bs.reverse (by simpa using h)
  unfold trimLeft at reversed
  rw [trimRight, List.reverse_append, reversed, List.reverse_append, List.reverse_reverse,
    trimRight]

/-- A text that begins without a blank is not trimmed on the left. -/
theorem trimLeft_of_inked (nonempty : as ≠ []) (h : ∀ c ∈ as, isBlank c = false) (bs : List Char) :
    trimLeft (as ++ bs) = as ++ bs := by
  have first : ∀ c ∈ (as ++ bs).head?, isBlank c = false := by
    rw [List.head?_append, List.head?_eq_some_head nonempty, Option.some_or]
    exact fun c hc => h c (List.mem_of_head? (List.head?_eq_some_head nonempty ▸ hc))
  exact trimLeft_append [] first

/-- A text that ends without a blank is not trimmed on the right. -/
theorem trimRight_of_inked (as : List Char) (nonempty : bs ≠ []) (h : ∀ c ∈ bs, isBlank c = false) :
    trimRight (as ++ bs) = as ++ bs := by
  have last : ∀ c ∈ (as ++ bs).getLast?, isBlank c = false := by
    rw [List.getLast?_append, List.getLast?_eq_some_getLast nonempty, Option.some_or]
    exact fun c hc => h c (List.mem_of_getLast? (List.getLast?_eq_some_getLast nonempty ▸ hc))
  have right := trimRight_append last []
  rw [List.append_nil] at right
  exact right.trans (List.append_nil _)

/-- What stands in front of a text without blanks is trimmed on its left only. -/
theorem trim_append_left (as : List Char) (nonempty : bs ≠ []) (h : ∀ c ∈ bs, isBlank c = false) :
    trim (as ++ bs) = trimLeft as ++ bs := by
  rw [trim, trimLeft_append as fun c hc => h c (List.mem_of_head? hc),
    trimRight_of_inked _ nonempty h]

theorem trim_of_ends {c d : Char} (hc : isBlank c = false) (hd : isBlank d = false)
    (cs : List Char) :
    trim (c :: (cs ++ [d])) = c :: (cs ++ [d]) := by
  rw [← List.cons_append, trim_append_left (c :: cs) (by simp) (by simpa using hd), trimLeft,
    List.dropWhile_cons_of_neg (by simp [hc])]

/-- What follows a text without blanks is trimmed on its right only. -/
theorem trim_append_right (nonempty : as ≠ []) (h : ∀ c ∈ as, isBlank c = false) (bs : List Char) :
    trim (as ++ bs) = as ++ trimRight bs := by
  rw [trim, trimLeft_of_inked nonempty h]
  exact trimRight_append (fun c hc => h c (List.mem_of_getLast? hc)) bs

end QuotationPress.Text
