import Mathlib.Data.List.Infix
import Mathlib.Data.List.TakeWhile
import QuotationPress.Proofs.Text.LowerCase
import QuotationPress.Text.Pattern

/-!
# What a search pattern is found in

`Fits` says which texts a pattern stands for, and `holdsLike_iff` that a search finds a text if the
pattern fits some part of it. `finds_iff_mentions` is the search for words: without wildcards and
null characters it finds the texts that mention them, and `exists_found_unmentioned` says that with
one it also finds others.
-/

namespace QuotationPress.Text

/-- The texts that a pattern stands for: a per cent sign for any run of characters, a low line for
any one. -/
inductive Fits : List Char → List Char → Prop
  | nil : Fits [] []
  | run (skipped : List Char) {pattern cs : List Char} : Fits pattern cs → Fits ('%' :: pattern)
      (skipped ++ cs)
  | one (c : Char) {pattern cs : List Char} : Fits pattern cs → Fits ('_' :: pattern) (c :: cs)
  | char {c : Char} {pattern cs : List Char} (plain : c ≠ '%' ∧ c ≠ '_') :
      Fits pattern cs → Fits (c :: pattern) (c :: cs)

variable {pattern cs : List Char}

/-- Behind a per cent sign any number of characters is skipped. -/
theorem skipping_iff {test : List Char → Bool} : matchesPattern.skipping test cs = true ↔
    ∃ c skipped rest, cs = c :: skipped ++ rest ∧ test rest = true := by
  induction cs with
  | nil => simp [matchesPattern.skipping]
  | cons c cs ih =>
    rw [matchesPattern.skipping, Bool.or_eq_true, ih]
    constructor
    · rintro (now | ⟨d, skipped, rest, rfl, later⟩)
      · exact ⟨c, [], cs, rfl, now⟩
      · exact ⟨c, d :: skipped, rest, rfl, later⟩
    · rintro ⟨d, skipped, rest, same, fits⟩
      obtain ⟨rfl, rfl⟩ := List.cons.inj same
      cases skipped with
      | nil => exact .inl fits
      | cons d skipped => exact .inr ⟨d, skipped, rest, rfl, fits⟩

theorem fits_nil_iff : Fits [] cs ↔ cs = [] := by
  constructor
  · rintro ⟨⟩
    rfl
  · rintro rfl
    exact .nil

theorem fits_run_iff : Fits ('%' :: pattern) cs ↔ ∃ rest, rest <:+ cs ∧ Fits pattern rest := by
  constructor
  · intro h
    cases h with
    | run skipped fits => exact ⟨_, List.suffix_append .., fits⟩
    | char plain => exact absurd rfl plain.1
  · rintro ⟨rest, ⟨skipped, rfl⟩, fits⟩
    exact .run skipped fits

theorem fits_one_iff : Fits ('_' :: pattern) cs ↔ ∃ c rest, cs = c :: rest ∧ Fits pattern rest := by
  constructor
  · intro h
    cases h with
    | one c fits => exact ⟨c, _, rfl, fits⟩
    | char plain => exact absurd rfl plain.2
  · rintro ⟨c, rest, rfl, fits⟩
    exact .one c fits

theorem fits_char_iff {p : Char} (plain : p ≠ '%' ∧ p ≠ '_') :
    Fits (p :: pattern) cs ↔ ∃ rest, cs = p :: rest ∧ Fits pattern rest := by
  constructor
  · intro h
    cases h with
    | run => exact absurd rfl plain.1
    | one => exact absurd rfl plain.2
    | char _ fits => exact ⟨_, rfl, fits⟩
  · rintro ⟨rest, rfl, fits⟩
    exact .char plain fits

/-- The matcher decides whether the pattern fits. -/
theorem matchesPattern_iff : matchesPattern pattern cs = true ↔ Fits pattern cs := by
  induction pattern generalizing cs with
  | nil => rw [matchesPattern, List.isEmpty_iff, fits_nil_iff]
  | cons p pattern ih =>
    by_cases run : p = '%'
    · subst run
      rw [matchesPattern, Bool.or_eq_true, skipping_iff, fits_run_iff]
      simp only [ih]
      constructor
      · -- nothing is skipped, or at least one character
        rintro (fits | ⟨c, skipped, rest, rfl, fits⟩)
        · exact ⟨cs, List.suffix_rfl, fits⟩
        · exact ⟨rest, List.suffix_append .., fits⟩
      · rintro ⟨rest, ⟨skipped, rfl⟩, fits⟩
        cases skipped with
        | nil => exact .inl fits
        | cons c skipped => exact .inr ⟨c, skipped, rest, rfl, fits⟩
    by_cases one : p = '_'
    · subst one
      rw [fits_one_iff]
      cases cs with
      | nil => simp [matchesPattern]
      | cons c cs => simp [matchesPattern, ih]
    · rw [fits_char_iff ⟨run, one⟩]
      cases cs with
      | nil => simp [matchesPattern]
      | cons c cs =>
        simp only [matchesPattern, Bool.and_eq_true, beq_iff_eq, ih]
        constructor
        · rintro ⟨rfl, fits⟩
          exact ⟨cs, rfl, fits⟩
        · rintro ⟨rest, same, fits⟩
          obtain ⟨rfl, rfl⟩ := List.cons.inj same
          exact ⟨rfl, fits⟩

/-- With a per cent sign at its end a pattern fits the texts of which it fits a beginning. -/
theorem fits_append_run_iff :
    Fits (pattern ++ ['%']) cs ↔ ∃ part, part <+: cs ∧ Fits pattern part := by
  induction pattern generalizing cs with
  | nil =>
    rw [List.nil_append, fits_run_iff]
    simp only [fits_nil_iff]
    exact iff_of_true ⟨[], List.nil_suffix, rfl⟩ ⟨[], List.nil_prefix, rfl⟩
  | cons p pattern ih =>
    rw [List.cons_append]
    -- the three kinds of characters of a pattern
    by_cases run : p = '%'
    · subst run
      simp only [fits_run_iff, ih]
      constructor
      · rintro ⟨rest, ⟨skipped, rfl⟩, part, before, fits⟩
        exact ⟨skipped ++ part, (List.prefix_append_right_inj skipped).mpr before, part,
          List.suffix_append .., fits⟩
      · rintro ⟨part, ⟨after, rfl⟩, rest, ⟨skipped, rfl⟩, fits⟩
        rw [List.append_assoc]
        exact ⟨rest ++ after, List.suffix_append .., rest, List.prefix_append .., fits⟩
    by_cases one : p = '_'
    · subst one
      simp only [fits_one_iff, ih]
      constructor
      · rintro ⟨c, rest, rfl, part, before, fits⟩
        exact ⟨c :: part, List.prefix_cons_inj c |>.mpr before, c, part, rfl, fits⟩
      · rintro ⟨_, ⟨after, rfl⟩, c, rest, rfl, fits⟩
        exact ⟨c, rest ++ after, rfl, rest, List.prefix_append .., fits⟩
    · simp only [fits_char_iff ⟨run, one⟩, ih]
      constructor
      · rintro ⟨rest, rfl, part, before, fits⟩
        exact ⟨p :: part, List.prefix_cons_inj p |>.mpr before, part, rfl, fits⟩
      · rintro ⟨_, ⟨after, rfl⟩, rest, rfl, fits⟩
        exact ⟨rest ++ after, rfl, rest, List.prefix_append .., fits⟩

/-! ### Searches -/

/-- A text without null characters. -/
def IsWhole (s : String) : Prop := ∀ c ∈ s.toList, c ≠ '\x00'

instance (s : String) : Decidable (IsWhole s) := List.decidableBAll _ _

/-- What a search looks at: the text before the first null character, in small letters. -/
def folded (s : String) : List Char := beforeNull (asciiLower s)

/-- A search finds a text if it fits some part of it. A null character cuts off what comes after it,
and with it the leave to stop before the end of the text. -/
def Finds (search s : String) : Prop :=
  ∃ part, Fits (folded search) part ∧
    if IsWhole search then part <:+: folded s else part <:+ folded s

/-- A character of ASCII before the small letters that is no capital is the lower case of itself
only. -/
theorem asciiLowerChar_eq_iff {c x : Char}
    (caseless : x.toNat < 0x41 ∨ 0x5A < x.toNat ∧ x.toNat < 0x61) :
    asciiLowerChar c = x ↔ c = x := by
  by_cases capital : 0x41 ≤ c.toNat ∧ c.toNat ≤ 0x5A
  · rw [asciiLowerChar_of_capital capital.1 capital.2]
    refine iff_of_false (fun same => ?_) (fun same => by subst same; omega)
    have valid : (c.toNat + 32).isValidChar := .inl (by omega)
    have code : (Char.ofNat (c.toNat + 32)).toNat = c.toNat + 32 := by
      rw [Char.ofNat, dif_pos valid]
      rfl
    rw [same] at code
    omega
  · rw [asciiLowerChar_of_other capital]

/-- A text is folded up to its first null character. -/
theorem folded_eq (s : String) :
    folded s = (s.toList.takeWhile fun c => c ≠ '\x00').map asciiLowerChar := by
  have null (c : Char) : (asciiLowerChar c).toNat = 0 ↔ c = '\x00' := by
    have code : (asciiLowerChar c).toNat = 0 ↔ asciiLowerChar c = '\x00' := @Char.toNat_inj _ '\x00'
    rw [code, asciiLowerChar_eq_iff (by decide)]
  have test : ((fun c : Char => decide (c.toNat ≠ 0)) ∘ asciiLowerChar) = fun c =>
      decide (c ≠ '\x00') := by
    funext c
    exact decide_eq_decide.mpr (not_congr (null c))
  rw [folded, beforeNull, asciiLower, String.toList_ofList, List.takeWhile_map, test]

theorem folded_of_isWhole {s : String} (whole : IsWhole s) :
    folded s = s.toList.map asciiLowerChar := by
  rw [folded_eq, List.takeWhile_eq_self_iff.mpr fun c hc => decide_eq_true (whole c hc)]

/-- Behind a null character the second per cent sign is cut off as well. -/
theorem folded_between (search : String) : folded ("%" ++ search ++ "%") =
    '%' :: if IsWhole search then folded search ++ ['%'] else folded search := by
  have chars : ("%" ++ search ++ "%").toList = '%' :: (search.toList ++ ['%']) := by simp
  rw [folded_eq, chars, List.takeWhile_cons_of_pos (by decide), List.map_cons]
  refine congrArg (List.cons _) ?_
  split
  · next whole =>
    rw [List.takeWhile_append_of_pos fun c hc => decide_eq_true (whole c hc),
      folded_of_isWhole whole, List.map_append]
    rfl
  · next cut =>
    have shorter : (search.toList.takeWhile fun c => c ≠ '\x00').length ≠ search.toList.length := by
      intro same
      refine cut fun c hc => ?_
      rw [← (List.takeWhile_prefix _).eq_of_length same] at hc
      simpa using List.mem_takeWhile_imp hc
    rw [List.takeWhile_append, if_neg shorter, folded_eq]

/-- The search finds what its pattern fits. -/
theorem holdsLike_iff {search s : String} : holdsLike search s = true ↔ Finds search s := by
  change matchesPattern (folded ("%" ++ search ++ "%")) (folded s) = true ↔ _
  rw [matchesPattern_iff, folded_between, fits_run_iff, Finds]
  split
  · simp only [fits_append_run_iff]
    constructor
    · rintro ⟨rest, ending, part, beginning, fits⟩
      exact ⟨part, fits, List.infix_iff_prefix_suffix.mpr ⟨rest, beginning, ending⟩⟩
    · rintro ⟨part, fits, inside⟩
      obtain ⟨rest, beginning, ending⟩ := List.infix_iff_prefix_suffix.mp inside
      exact ⟨rest, ending, part, beginning, fits⟩
  · exact exists_congr fun part => and_comm

/-- The empty search finds every text. -/
theorem finds_empty {s : String} : Finds "" s := ⟨[], .nil, List.nil_infix⟩

instance (search s : String) : Decidable (Finds search s) := decidable_of_iff _ holdsLike_iff

/-! ### Searches for words -/

/-- A text without wildcards and null characters. -/
def IsLiteral (s : String) : Prop := ∀ c ∈ s.toList, c ≠ '%' ∧ c ≠ '_' ∧ c ≠ '\x00'

instance (s : String) : Decidable (IsLiteral s) := List.decidableBAll _ _

theorem IsLiteral.isWhole {s : String} (literal : IsLiteral s) : IsWhole s :=
  fun c hc => (literal c hc).2.2

/-- The text is a part of the other one, but for the case of ASCII letters. -/
def Mentions (s part : String) : Prop := (asciiLower part).toList <:+: (asciiLower s).toList

instance (s part : String) : Decidable (Mentions s part) := inferInstanceAs (Decidable (_ <:+: _))

theorem toList_asciiLower (s : String) : (asciiLower s).toList = s.toList.map asciiLowerChar := by
  rw [asciiLower, String.toList_ofList]

/-- A pattern without wildcards fits itself only. -/
theorem fits_iff_eq (plain : ∀ c ∈ pattern, c ≠ '%' ∧ c ≠ '_') :
    Fits pattern cs ↔ cs = pattern := by
  induction pattern generalizing cs with
  | nil => exact fits_nil_iff
  | cons p pattern ih =>
    obtain ⟨first, others⟩ := List.forall_mem_cons.mp plain
    rw [fits_char_iff first]
    simp only [ih others, exists_eq_right]

/-- Small letters leave wildcards as they are. -/
theorem isLiteral_iff {s : String} :
    IsLiteral s ↔ ∀ c ∈ s.toList.map asciiLowerChar, c ≠ '%' ∧ c ≠ '_' ∧ c ≠ '\x00' := by
  rw [IsLiteral, List.forall_mem_map]
  refine forall₂_congr fun c _ => ?_
  have percent : asciiLowerChar c = '%' ↔ c = '%' := asciiLowerChar_eq_iff (by decide)
  have line : asciiLowerChar c = '_' ↔ c = '_' := asciiLowerChar_eq_iff (by decide)
  have null : asciiLowerChar c = '\x00' ↔ c = '\x00' := asciiLowerChar_eq_iff (by decide)
  exact ((not_congr percent).and ((not_congr line).and (not_congr null))).symm

/-- Without wildcards and null characters a search finds the texts that mention it. -/
theorem finds_iff_mentions {search s : String} (literal : IsLiteral search) (whole : IsWhole s) :
    Finds search s ↔ Mentions s search := by
  have plain : ∀ c ∈ folded search, c ≠ '%' ∧ c ≠ '_' := fun c hc =>
    have ⟨percent, line, _⟩ := isLiteral_iff.mp literal c (folded_of_isWhole literal.isWhole ▸ hc)
    ⟨percent, line⟩
  simp only [Finds, fits_iff_eq plain, if_pos literal.isWhole, exists_eq_left]
  rw [Mentions, folded_of_isWhole whole, folded_of_isWhole literal.isWhole, toList_asciiLower,
    toList_asciiLower]

/-- What is mentioned in a text without wildcards and null characters has none. -/
theorem Mentions.isLiteral {search s : String} (mentioned : Mentions s search)
    (literal : IsLiteral s) :
    IsLiteral search := by
  rw [Mentions, toList_asciiLower, toList_asciiLower] at mentioned
  exact isLiteral_iff.mpr fun c hc => isLiteral_iff.mp literal c (mentioned.subset hc)

/-- A character that a character of a pattern stands for, which is no wildcard. -/
def sample (c : Char) : Char := if c = '%' ∨ c = '_' then 'x' else c

/-- A pattern fits the text that has a letter for each of its wildcards. -/
theorem fits_map_sample (pattern : List Char) : Fits pattern (pattern.map sample) := by
  induction pattern with
  | nil => exact .nil
  | cons c pattern ih =>
    rw [List.map_cons]
    by_cases run : c = '%'
    · subst run
      exact .run ['x'] ih
    by_cases one : c = '_'
    · subst one
      exact .one 'x' ih
    · rw [sample, if_neg (not_or.mpr ⟨run, one⟩)]
      exact .char ⟨run, one⟩ ih

theorem sample_ne (c : Char) : sample c ≠ '%' ∧ sample c ≠ '_' := by
  unfold sample
  split
  · decide
  · next plain => exact not_or.mp plain

theorem sample_eq_null_iff {c : Char} : sample c = '\x00' ↔ c = '\x00' := by
  unfold sample
  split
  · next wild => exact iff_of_false (by decide) fun null => absurd (null ▸ wild) (by decide)
  · rfl

theorem asciiLowerChar_sample (c : Char) :
    asciiLowerChar (sample c) = sample (asciiLowerChar c) := by
  have percent : asciiLowerChar c = '%' ↔ c = '%' := asciiLowerChar_eq_iff (by decide)
  have line : asciiLowerChar c = '_' ↔ c = '_' := asciiLowerChar_eq_iff (by decide)
  simp only [sample, percent, line]
  split <;> rfl

/-- Every search with a wildcard or a null character finds a text that does not mention it. -/
theorem exists_found_unmentioned {search : String} (wild : ¬ IsLiteral search) :
    ∃ s, IsLiteral s ∧ Finds search s ∧ ¬ Mentions s search := by
  obtain ⟨s, chars⟩ : ∃ s : String,
      s.toList = (search.toList.takeWhile fun c => c ≠ '\x00').map sample :=
    ⟨_, String.toList_ofList⟩
  have literal : IsLiteral s := by
    rw [IsLiteral, chars, List.forall_mem_map]
    intro c hc
    have given : c ≠ '\x00' := by simpa using List.mem_takeWhile_imp hc
    exact ⟨(sample_ne c).1, (sample_ne c).2, mt sample_eq_null_iff.mp given⟩
  -- folding comes to the same before and after the wildcards are replaced
  have shown : folded s = (folded search).map sample := by
    rw [folded_of_isWhole literal.isWhole, chars, folded_eq, List.map_map, List.map_map]
    exact List.map_congr_left fun c _ => asciiLowerChar_sample c
  have found : Finds search s := by
    refine ⟨folded s, ?_, ?_⟩
    · rw [shown]
      exact fits_map_sample _
    · split
      · exact List.infix_rfl
      · exact List.suffix_rfl
  exact ⟨s, literal, found, fun mentioned => wild (mentioned.isLiteral literal)⟩

end QuotationPress.Text
