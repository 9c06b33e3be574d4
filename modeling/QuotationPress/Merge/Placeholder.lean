import QuotationPress.Text.Blank
import QuotationPress.Text.Digit
import QuotationPress.Text.Word
import QuotationPress.Failure

/-!
# Placeholders in a text

A placeholder is a dotted path between double braces, `{{ client.name }}`, blanks allowed around the
path. `segments` cuts a text into placeholders and all other characters, from left to right; `fill`
puts values in place of the placeholders and never looks at the values again.
-/

namespace QuotationPress.Merge

open Text (isBlank isWord)

def isPathStart (c : Char) : Bool := Text.isAsciiLetter c || c == '_'

/-- The steps that follow the first one: a dot and word characters, over and over. -/
def moreSteps : Nat → List Char → List Char × List Char
  | 0, cs => ([], cs)
  | fuel + 1, cs =>
    match cs with
    | '.' :: rest =>
      let word := rest.takeWhile isWord
      if word.isEmpty then ([], cs)
      else
        let (steps, left) := moreSteps fuel (rest.dropWhile isWord)
        ('.' :: word ++ steps, left)
    | _ => ([], cs)

/-- A dotted path at the front: a letter or low line first, then word characters. -/
def pathAtFront? (cs : List Char) : Option (List Char × List Char) :=
  match cs with
  | c :: _ =>
    if isPathStart c then
      let word := cs.takeWhile isWord
      let (steps, left) := moreSteps cs.length (cs.dropWhile isWord)
      some (word ++ steps, left)
    else none
  | [] => none

/-- A placeholder at the front: its path, and what stands after it. -/
def placeholder? : List Char → Option (List Char × List Char)
  | '\x7b' :: '\x7b' :: rest =>
    match pathAtFront? (rest.dropWhile isBlank) with
    | some (path, left) =>
      match left.dropWhile isBlank with
      | '\x7d' :: '\x7d' :: after => some (path, after)
      | _ => none
    | none => none
  | _ => none

inductive Segment where
  | char (c : Char)
  | placeholder (path : List Char)
  deriving Repr, DecidableEq

/-! ### A placeholder takes up characters -/

theorem length_dropWhile_le {α : Type} (p : α → Bool) (cs : List α) :
    (cs.dropWhile p).length ≤ cs.length :=
  (List.dropWhile_suffix p).length_le

theorem moreSteps_length (fuel : Nat) (cs : List Char) :
    (moreSteps fuel cs).2.length ≤ cs.length := by
  fun_induction moreSteps fuel cs with
  | case1 => simp
  | case2 => simp
  | case3 fuel rest word h steps left heq ih =>
    have h' := length_dropWhile_le isWord rest
    rw [heq] at ih
    simp only [List.length_cons] at ih ⊢
    omega
  | case4 => simp

theorem pathAtFront?_length {cs path left : List Char} (h : pathAtFront? cs = some (path, left)) :
    left.length ≤ cs.length := by
  unfold pathAtFront? at h
  split at h
  · next c rest =>
    split at h
    · simp only [Option.some.injEq, Prod.mk.injEq] at h
      rw [← h.2]
      exact Nat.le_trans (moreSteps_length _ _) (length_dropWhile_le isWord _)
    · simp at h
  · simp at h

theorem placeholder?_length {cs path after : List Char}
    (h : placeholder? cs = some (path, after)) : after.length < cs.length := by
  unfold placeholder? at h
  split at h
  · next rest =>
    split at h
    · next path' left hp =>
      split at h
      · next after' heq =>
        simp only [Option.some.injEq, Prod.mk.injEq] at h
        have h1 := pathAtFront?_length hp
        have h2 := length_dropWhile_le isBlank rest
        have h3 := length_dropWhile_le isBlank left
        rw [heq] at h3
        simp only [List.length_cons] at h3 ⊢
        rw [← h.2]
        omega
      · simp at h
    · simp at h
  · simp at h

/-! ### Filling in -/

def segments (cs : List Char) : List Segment :=
  match cs with
  | [] => []
  | c :: rest =>
    match _ : placeholder? (c :: rest) with
    | some (path, after) => .placeholder path :: segments after
    | none => .char c :: segments rest
termination_by cs.length
decreasing_by
  · next h => exact placeholder?_length h
  · simp

def fillSegments (resolve : String → Outcome String) : List Segment → Outcome (List Char)
  | [] => .ok []
  | .char c :: rest => do return c :: (← fillSegments resolve rest)
  | .placeholder path :: rest => do
    let value ← resolve (String.ofList path)
    return value.toList ++ (← fillSegments resolve rest)

/-- The text with the value of every placeholder in its place. -/
def fill (resolve : String → Outcome String) (s : String) : Outcome String := do
  return String.ofList (← fillSegments resolve (segments s.toList))

end QuotationPress.Merge
