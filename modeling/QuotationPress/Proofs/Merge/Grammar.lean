import QuotationPress.Merge.Placeholder
import QuotationPress.Text.Split
import Mathlib.Data.List.TakeWhile

/-!
# The grammar of placeholders

`IsPath` says how a path is written and `Mark` is a placeholder with the blanks around its path.
What `placeholder?` takes off the front of a text is a mark, and it takes off every mark:
`placeholder?_eq_some_iff`.
-/

namespace QuotationPress

/-! ### Kinds of characters -/

namespace Text

/-- The code points of the blank characters. -/
def blankRanges : List (Nat × Nat) :=
  [(0x9, 0xD), (0x1C, 0x20), (0x85, 0x85), (0xA0, 0xA0), (0x1680, 0x1680), (0x2000, 0x200A),
    (0x2028, 0x2029), (0x202F, 0x202F), (0x205F, 0x205F), (0x3000, 0x3000)]

/-- The code points are all that a blank can have. -/
theorem inRanges_of_isBlank {c : Char} (h : isBlank c = true) : inRanges blankRanges c = true := by
  simp only [isBlank, Bool.or_eq_true, Bool.and_eq_true, decide_eq_true_eq, beq_iff_eq] at h
  simp only [inRanges, blankRanges, List.any_cons, List.any_nil, Bool.or_false, Bool.or_eq_true,
    Bool.and_eq_true, decide_eq_true_eq]
  omega

/-- Ranges that are apart share no character. -/
theorem inRanges_eq_false_of_apart {s t : List (Nat × Nat)}
    (apart : (s.all fun r => t.all fun q => decide (r.2 < q.1) || decide (q.2 < r.1)) = true)
    {c : Char} (h : inRanges s c = true) : inRanges t c = false := by
  by_contra both
  obtain ⟨r, hr, inside⟩ := List.any_eq_true.mp h
  obtain ⟨q, hq, inside'⟩ := List.any_eq_true.mp (eq_true_of_ne_false both)
  have away := List.all_eq_true.mp (List.all_eq_true.mp apart r hr) q hq
  simp only [Bool.or_eq_true, Bool.and_eq_true, decide_eq_true_eq] at away inside inside'
  omega

/-- No blank is a word character. -/
theorem isWord_of_isBlank {c : Char} (h : isBlank c = true) : isWord c = false :=
  inRanges_eq_false_of_apart (by decide +kernel) (inRanges_of_isBlank h)

end Text

namespace Merge

open Text (isBlank isWord takeWhile_dropWhile_append)

theorem mem_ranges_of_isPathStart {c : Char} (h : isPathStart c = true) :
    ∃ r ∈ [(0x61, 0x7A), (0x41, 0x5A), (0x5F, 0x5F)], r.1 ≤ c.toNat ∧ c.toNat ≤ r.2 := by
  simp only [isPathStart, Text.isAsciiLetter, Bool.or_eq_true, Bool.and_eq_true, decide_eq_true_eq,
    beq_iff_eq, Char.le_def, UInt32.le_iff_toNat_le] at h
  rcases h with (⟨low, high⟩ | ⟨low, high⟩) | rfl
  · exact ⟨(0x61, 0x7A), by decide, low, high⟩
  · exact ⟨(0x41, 0x5A), by decide, low, high⟩
  · exact ⟨(0x5F, 0x5F), by decide, by decide, by decide⟩

/-- A path starts with a word character. -/
theorem isWord_of_isPathStart {c : Char} (h : isPathStart c = true) : isWord c = true := by
  obtain ⟨r, hr, low, high⟩ := mem_ranges_of_isPathStart h
  have listed : ∀ r ∈ [(0x61, 0x7A), (0x41, 0x5A), (0x5F, 0x5F)], r ∈ Text.wordRanges := by
    decide +kernel
  refine List.any_eq_true.mpr ⟨r, listed r hr, ?_⟩
  simp [low, high]

theorem isBlank_of_isPathStart {c : Char} (h : isPathStart c = true) : isBlank c = false := by
  by_contra blank
  have word := isWord_of_isPathStart h
  rw [Text.isWord_of_isBlank (eq_true_of_ne_false blank)] at word
  cases word

/-! ### Paths -/

/-- A step of a path after its first one: there is something in it, and word characters only. -/
structure IsName (cs : List Char) : Prop where
  nonempty : cs ≠ []
  word : ∀ c ∈ cs, isWord c = true

/-- The steps after the first one, each behind a dot. -/
def dottedNames (names : List (List Char)) : List Char := names.flatMap fun name => '.' :: name

/-- A letter or low line, then word characters, then names behind dots. -/
inductive IsPath : List Char → Prop
  | mk {first : Char} {word : List Char} {names : List (List Char)}
      (start : isPathStart first = true)
    (more : ∀ c ∈ word, isWord c = true) (steps : ∀ name ∈ names, IsName name) :
    IsPath (first :: word ++ dottedNames names)

/-- A path does not go on in this text. -/
structure EndsPath (cs : List Char) : Prop where
  noWord : ∀ c ∈ cs.head?, isWord c = false
  noDot : ∀ c ∈ cs.head?, c ≠ '.'

theorem dottedNames_cons (name : List Char) (names : List (List Char)) :
    dottedNames (name :: names) = '.' :: (name ++ dottedNames names) := rfl

/-- What follows the first step is no word character. -/
theorem head?_dottedNames_append {names : List (List Char)} {rest : List Char}
    (ends : EndsPath rest) :
    ∀ c ∈ (dottedNames names ++ rest).head?, isWord c = false := by
  cases names with
  | nil => exact ends.noWord
  | cons name names =>
    intro c hc
    obtain rfl : '.' = c := Option.some.inj hc
    decide +kernel

/-- The steps of a path are read to its end, and no further. -/
theorem moreSteps_dottedNames {names : List (List Char)} (steps : ∀ name ∈ names, IsName name)
    {rest : List Char} (ends : EndsPath rest) {fuel : ℕ} (enough : names.length < fuel) :
    moreSteps fuel (dottedNames names ++ rest) = (dottedNames names, rest) := by
  induction names generalizing fuel with
  | nil =>
    obtain ⟨fuel, rfl⟩ := Nat.exists_eq_succ_of_ne_zero (Nat.ne_of_gt enough)
    show moreSteps (fuel + 1) rest = ([], rest)
    unfold moreSteps
    split
    · next more => exact absurd rfl (ends.noDot '.' rfl)
    · rfl
  | cons name names ih =>
    obtain ⟨fuel, rfl⟩ := Nat.exists_eq_succ_of_ne_zero (Nat.ne_of_gt (Nat.zero_lt_of_lt enough))
    obtain ⟨named, steps⟩ := List.forall_mem_cons.mp steps
    have cut := takeWhile_dropWhile_append named.word (@head?_dottedNames_append names rest ends)
    have given : name.isEmpty = false := by simpa using named.nonempty
    have left := @ih steps fuel (by simpa using enough)
    rw [dottedNames_cons, List.cons_append, List.append_assoc, moreSteps]
    simp only [cut.1, cut.2, given, left]
    rfl

/-- A path has no more steps than characters, so that the fuel is enough. -/
theorem length_le_dottedNames (names : List (List Char)) :
    names.length ≤ (dottedNames names).length := by
  induction names with
  | nil => exact Nat.le_refl _
  | cons name names ih =>
    rw [dottedNames_cons, List.length_cons, List.length_cons, List.length_append]
    omega

theorem pathAtFront?_of_start {first : Char} (start : isPathStart first = true) (rest : List Char) :
    pathAtFront? (first :: rest) =
      let found := moreSteps (first :: rest).length ((first :: rest).dropWhile isWord)
      some ((first :: rest).takeWhile isWord ++ found.1, found.2) :=
  if_pos start

/-- A path in front of a text that does not go on with it is read as a whole. -/
theorem pathAtFront?_append {path : List Char} (isPath : IsPath path) {rest : List Char}
    (ends : EndsPath rest) : pathAtFront? (path ++ rest) = some (path, rest) := by
  obtain @⟨first, word, names, start, more, steps⟩ := isPath
  have words : ∀ c ∈ first :: word, isWord c = true :=
    List.forall_mem_cons.mpr ⟨isWord_of_isPathStart start, more⟩
  have cut := takeWhile_dropWhile_append words (@head?_dottedNames_append names rest ends)
  have enough : names.length < (first :: word ++ (dottedNames names ++ rest)).length := by
    have names_le := length_le_dottedNames names
    simp only [List.length_append, List.length_cons]
    omega
  have left := moreSteps_dottedNames steps ends enough
  rw [List.append_assoc]
  rw [List.cons_append] at cut left ⊢
  rw [pathAtFront?_of_start start]
  dsimp only
  rw [cut.1, cut.2, left]

/-- What is read as steps is made of names behind dots. -/
theorem moreSteps_spec (fuel : ℕ) (cs : List Char) : ∃ names, (∀ name ∈ names, IsName name) ∧
    (moreSteps fuel cs).1 = dottedNames names ∧
      (moreSteps fuel cs).1 ++ (moreSteps fuel cs).2 = cs := by
  fun_induction moreSteps fuel cs with
  | case1 cs => exact ⟨[], List.forall_mem_nil _, rfl, rfl⟩
  | case2 fuel rest => exact ⟨[], List.forall_mem_nil _, rfl, rfl⟩
  | case3 fuel rest word given steps left cut ih =>
    rw [cut] at ih
    obtain ⟨names, named, rfl, whole⟩ := ih
    have named' : IsName word := by
      constructor
      · simpa using given
      · exact fun c hc => List.mem_takeWhile_imp hc
    refine ⟨word :: names, List.forall_mem_cons.mpr ⟨named', named⟩, rfl, ?_⟩
    show '.' :: word ++ dottedNames names ++ left = '.' :: rest
    have whole : dottedNames names ++ left = rest.dropWhile isWord := whole
    have rest_eq : word ++ rest.dropWhile isWord = rest := List.takeWhile_append_dropWhile
    rw [List.append_assoc, whole, List.cons_append, rest_eq]
  | case4 fuel cs => exact ⟨[], List.forall_mem_nil _, rfl, rfl⟩

/-- What is read at the front is a path. -/
theorem pathAtFront?_eq_some {cs path left : List Char} (h : pathAtFront? cs = some (path, left)) :
    IsPath path ∧ path ++ left = cs := by
  cases cs with
  | nil => cases h
  | cons first rest =>
    -- a path has a letter or a low line in front
    by_cases start : isPathStart first = true
    · rw [pathAtFront?_of_start start] at h
      obtain ⟨hpath, hleft⟩ := Prod.mk.inj (Option.some.inj h)
      obtain ⟨names, named, steps, whole⟩ :=
        moreSteps_spec (first :: rest).length ((first :: rest).dropWhile isWord)
      have word : (first :: rest).takeWhile isWord = first :: rest.takeWhile isWord :=
        List.takeWhile_cons_of_pos (isWord_of_isPathStart start)
      constructor
      · rw [← hpath, steps, word]
        exact .mk start (fun c hc => List.mem_takeWhile_imp hc) named
      · rw [← hpath, ← hleft, List.append_assoc, whole]
        exact List.takeWhile_append_dropWhile
    · have none : pathAtFront? (first :: rest) = none := if_neg start
      rw [none] at h
      cases h

theorem isPath_iff {cs : List Char} : IsPath cs ↔ pathAtFront? cs = some (cs, []) := by
  constructor
  · intro isPath
    have whole := @pathAtFront?_append cs isPath [] ⟨nofun, nofun⟩
    rwa [List.append_nil] at whole
  · intro found
    exact (pathAtFront?_eq_some found).1

instance (cs : List Char) : Decidable (IsPath cs) := decidable_of_iff _ isPath_iff.symm

/-! ### Marks -/

/-- A placeholder as it is written: a path between double braces, with blanks around it. -/
structure Mark where
  before : List Char
  path : List Char
  behind : List Char
  blankBefore : ∀ c ∈ before, isBlank c = true
  isPath : IsPath path
  blankBehind : ∀ c ∈ behind, isBlank c = true

namespace Mark

/-- All characters of a placeholder. -/
def text (m : Mark) : List Char :=
  '\x7b' :: '\x7b' :: (m.before ++ (m.path ++ (m.behind ++ ['\x7d', '\x7d'])))

/-- The path that a placeholder names. -/
def name (m : Mark) : String := String.ofList m.path

end Mark

/-- A path ends before blanks and the closing brace. -/
theorem endsPath_of_blanks {blanks rest : List Char} (blank : ∀ c ∈ blanks, isBlank c = true) :
    EndsPath (blanks ++ '\x7d' :: rest) := by
  have brace : isWord '\x7d' = false := by decide +kernel
  cases blanks with
  | nil =>
    constructor
    · intro c hc
      exact Option.some.inj hc ▸ brace
    · intro c hc
      exact Option.some.inj hc ▸ (by decide)
  | cons b blanks =>
    have first := blank b List.mem_cons_self
    constructor
    · intro c hc
      exact Option.some.inj hc ▸ Text.isWord_of_isBlank first
    · intro c hc
      obtain rfl : b = c := Option.some.inj hc
      rintro rfl
      exact absurd first (by decide)

theorem IsPath.head {path : List Char} (isPath : IsPath path) :
    ∀ c ∈ path.head?, isBlank c = false := by
  obtain ⟨start, -, -⟩ := isPath
  intro c hc
  exact Option.some.inj hc ▸ isBlank_of_isPathStart start

/-- A placeholder is taken off the front of any text. -/
theorem placeholder?_append (m : Mark) (after : List Char) :
    placeholder? (m.text ++ after) = some (m.path, after) := by
  have shape : m.text ++ after =
      '\x7b' :: '\x7b' :: (m.before ++ (m.path ++ (m.behind ++ '\x7d' :: '\x7d' :: after))) := by
    simp [Mark.text]
  -- the blanks end where the path begins
  have head :
      ∀ c ∈ (m.path ++ (m.behind ++ '\x7d' :: '\x7d' :: after)).head?, isBlank c = false := by
    cases path : m.path with
    | nil =>
      have isPath := m.isPath
      rw [path] at isPath
      cases isPath
    | cons first rest =>
      intro c hc
      exact m.isPath.head c (path ▸ hc)
  have start := (takeWhile_dropWhile_append m.blankBefore head).2
  have path :=
    pathAtFront?_append m.isPath (@endsPath_of_blanks m.behind ('\x7d' :: after) m.blankBehind)
  have close : ∀ c ∈ ('\x7d' :: '\x7d' :: after).head?, isBlank c = false := by
    intro c hc
    exact Option.some.inj hc ▸ (by decide)
  have left := (takeWhile_dropWhile_append m.blankBehind close).2
  rw [shape]
  unfold placeholder?
  simp only [start, path, left]

/-- What is taken off the front of a text as a placeholder is one. -/
theorem placeholder?_eq_some_iff {cs path after : List Char} :
    placeholder? cs = some (path, after) ↔ ∃ m : Mark, m.path = path ∧ m.text ++ after = cs := by
  constructor
  · intro h
    unfold placeholder? at h
    split at h
    · next rest =>
      split at h
      · next path' left found =>
        split at h
        · next after' closed =>
          obtain ⟨hpath, hafter⟩ := Prod.mk.inj (Option.some.inj h)
          obtain ⟨isPath, whole⟩ := pathAtFront?_eq_some found
          refine ⟨⟨rest.takeWhile isBlank, path', left.takeWhile isBlank,
            fun c hc => List.mem_takeWhile_imp hc,
            isPath, fun c hc => List.mem_takeWhile_imp hc⟩, hpath, ?_⟩
          -- the two runs of blanks and the path make up what stands between the braces
          have spread : rest.takeWhile isBlank ++
              (path' ++ (left.takeWhile isBlank ++ left.dropWhile isBlank)) = rest := by
            rw [List.takeWhile_append_dropWhile, whole, List.takeWhile_append_dropWhile]
          rw [closed] at spread
          rw [← hafter]
          simpa [Mark.text] using spread
        · cases h
      · cases h
    · cases h
  · rintro ⟨m, rfl, rfl⟩
    exact placeholder?_append m after

end Merge

end QuotationPress
