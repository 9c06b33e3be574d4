/-!
# Cutting a text at a mark

`splitAt` gives the parts between the marks, at least one; `partition` gives what stands before and
after the first mark; `withoutFinalBreak` takes off a line break at the end.
`takeWhile_dropWhile_append` says where a run of characters of one kind is cut off.
-/

namespace QuotationPress.Text

/-- The parts of `cs` between the marks. -/
def splitChars (mark : Char) : List Char → List (List Char)
  | [] => [[]]
  | c :: rest =>
    if c = mark then [] :: splitChars mark rest
    else match splitChars mark rest with
      | [] => [[c]]
      | part :: parts => (c :: part) :: parts

def splitAt (mark : Char) (s : String) : List String :=
  (splitChars mark s.toList).map String.ofList

/-- What stands before the first mark and after it, the latter empty when there is no mark. -/
def partition (mark : Char) (s : String) : String × String :=
  (String.ofList (s.toList.takeWhile (· ≠ mark)),
    String.ofList ((s.toList.dropWhile (· ≠ mark)).drop 1))

/-- The text without the line break at its end, if there is one. -/
def withoutFinalBreak (cs : List Char) : List Char :=
  if cs.getLast? = some '\n' then cs.dropLast else cs

theorem splitChars_ne_nil (mark : Char) (cs : List Char) : splitChars mark cs ≠ [] := by
  cases cs with
  | nil => simp [splitChars]
  | cons c rest =>
    rw [splitChars]
    split
    · simp
    · split <;> simp

/-- A run of characters of one kind ends where a character of another kind, or nothing, follows. -/
theorem takeWhile_dropWhile_append {kind : Char → Bool} {run rest : List Char}
    (inside : ∀ c ∈ run, kind c = true) (stop : ∀ c ∈ rest.head?, kind c = false) :
    (run ++ rest).takeWhile kind = run ∧ (run ++ rest).dropWhile kind = rest := by
  have none : rest.takeWhile kind = [] ∧ rest.dropWhile kind = rest := by
    cases rest with
    | nil => exact ⟨rfl, rfl⟩
    | cons c rest => simp [stop c rfl]
  rw [List.takeWhile_append_of_pos inside, List.dropWhile_append_of_pos inside, none.1, none.2,
    List.append_nil]
  exact ⟨rfl, rfl⟩

end QuotationPress.Text
