import Mathlib.Data.List.Infix
import QuotationPress.Text.Case

/-!
# Lower case of texts of any script, looked at through ASCII

A character of ASCII other than `i` and `k` is the lower case of itself or of its capital, and of
nothing else: `mapByRuns_eq_iff`. So a mark made of such characters begins a text in lower case
exactly if it begins the text up to the case of ASCII letters, and ends it so:
`isPrefix_lowerAfter_iff`, `isSuffix_lowerAfter_iff`. Positions behind a dotted capital I differ,
which becomes two characters.
-/

namespace QuotationPress.Text

/-- The one character whose lower case is longer than the character. -/
def dottedI : Char := 'İ'

/-- A character of ASCII that is the lower case of none beyond ASCII: the small `i` begins that of
the dotted capital I, and the small `k` is that of the Kelvin sign. -/
def IsSole (x : Char) : Prop := 0 < x.toNat ∧ x.toNat < 0x80 ∧ x.toNat ≠ 0x69 ∧ x.toNat ≠ 0x6B

instance (x : Char) : Decidable (IsSole x) := inferInstanceAs (Decidable (_ ∧ _))

variable {c x : Char}

/-! ### One character -/

deriving instance DecidableEq for CaseRun

/-- The capitals of ASCII are one run of the table. The other runs lead from beyond ASCII to beyond
ASCII, but for the Kelvin sign. -/
theorem lowerRuns_spec :
    ⟨0x41, 0x5A, 1, 0x61⟩ ∈ lowerRuns ∧
      ∀ r ∈ lowerRuns, r = ⟨0x41, 0x5A, 1, 0x61⟩ ∨
        0x80 ≤ r.first ∧ (0x80 ≤ r.target ∨ r.first = r.last ∧ r.target = 0x6B) := by
  decide +kernel

theorem asciiLowerChar_of_capital (low : 0x41 ≤ c.toNat) (high : c.toNat ≤ 0x5A) :
    asciiLowerChar c = Char.ofNat (c.toNat + 32) := by
  have inside : 'A' ≤ c ∧ c ≤ 'Z' := ⟨low, high⟩
  simp [asciiLowerChar, inside]

theorem asciiLowerChar_of_other (outside : ¬ (0x41 ≤ c.toNat ∧ c.toNat ≤ 0x5A)) :
    asciiLowerChar c = c := by
  have outside : ¬ ('A' ≤ c ∧ c ≤ 'Z') := outside
  simp [asciiLowerChar, outside]

theorem toNat_ofNat_eq (n : Nat) : (Char.ofNat n).toNat = n ∨ (Char.ofNat n).toNat = 0 := by
  by_cases valid : n.isValidChar
  · left
    rw [Char.ofNat, dif_pos valid]
    rfl
  · right
    rw [Char.ofNat, dif_neg valid]
    rfl

/-- A character before the small letters is only the lower case of itself. -/
theorem eq_of_asciiLowerChar (pos : 0 < x.toNat) (low : x.toNat < 0x61)
    (h : asciiLowerChar c = x) : c = x := by
  by_cases capital : 0x41 ≤ c.toNat ∧ c.toNat ≤ 0x5A
  · rw [asciiLowerChar_of_capital capital.1 capital.2] at h
    subst h
    obtain same | zero := toNat_ofNat_eq (c.toNat + 32) <;> omega
  · rwa [asciiLowerChar_of_other capital] at h

/-- What lies beyond ASCII, or is an i or a k, is none of these characters. -/
theorem IsSole.ofNat_ne (sole : IsSole x) {n : Nat} (other : 0x80 ≤ n ∨ n = 0x69 ∨ n = 0x6B) :
    Char.ofNat n ≠ x := by
  rintro rfl
  obtain ⟨pos, ascii, no_i, no_k⟩ := sole
  obtain same | zero := toNat_ofNat_eq n <;> omega

theorem IsSole.ne_of_le (sole : IsSole x) (beyond : 0x80 ≤ c.toNat) : c ≠ x := by
  rintro rfl
  exact absurd sole.2.1 (by omega)

/-- The table has such a character as the small letter of its own capital only. -/
theorem mapByRuns_eq_iff (c : Char) (sole : IsSole x) :
    mapByRuns lowerRuns c = x ↔ asciiLowerChar c = x := by
  obtain ⟨capitals, others⟩ := lowerRuns_spec
  unfold mapByRuns
  cases found : lowerRuns.findSome? (·.image? c.toNat) with
  | none =>
    have missed := List.findSome?_eq_none_iff.mp found _ capitals
    have outside : ¬ (0x41 ≤ c.toNat ∧ c.toNat ≤ 0x5A) := by
      simpa [CaseRun.image?, Nat.mod_one] using missed
    rw [asciiLowerChar_of_other outside]
  | some n =>
    obtain ⟨r, hr, image⟩ := List.exists_of_findSome?_eq_some found
    simp only [CaseRun.image?, Option.ite_none_right_eq_some, Bool.and_eq_true, decide_eq_true_eq,
      Option.some.injEq] at image
    obtain ⟨⟨⟨low, high⟩, -⟩, rfl⟩ := image
    -- the run of the capitals of ASCII, or one beyond
    obtain rfl | ⟨beyond, target⟩ := others r hr
    · have shift : 0x61 + (c.toNat - 0x41) = c.toNat + 32 := by simp only at low; omega
      rw [asciiLowerChar_of_capital low high]
      simp only [shift]
    · rw [asciiLowerChar_of_other (by omega)]
      exact iff_of_false (sole.ofNat_ne (by omega)) (sole.ne_of_le (by omega))

/-! ### Texts -/

/-- A dotted capital I becomes two characters. -/
theorem lowerAfter_dottedI (before rest : List Char) :
    lowerAfter before (dottedI :: rest) =
      'i' :: Char.ofNat 0x307 :: lowerAfter (dottedI :: before) rest := rfl

/-- Every other character becomes one character, which is a sole one if it is the same or its
capital. -/
theorem lowerAfter_cons (plain : c ≠ dottedI) (before rest : List Char) :
    ∃ d, lowerAfter before (c :: rest) = d :: lowerAfter (c :: before) rest ∧
      ∀ x, IsSole x → (d = x ↔ asciiLowerChar c = x) := by
  by_cases sigma : c.toNat = 0x3A3
  · refine ⟨Char.ofNat (if isFinalSigma before rest then 0x3C2 else 0x3C3),
      by simp [lowerAfter, sigma], ?_⟩
    intro x sole
    rw [asciiLowerChar_of_other (by omega)]
    refine iff_of_false (sole.ofNat_ne ?_) (sole.ne_of_le (by omega))
    split <;> decide
  · have single : c.toNat ≠ 0x130 := fun same => plain (Char.toNat_inj.mp same)
    exact ⟨mapByRuns lowerRuns c, by simp [lowerAfter, sigma, lowerChar, single],
      fun x sole => mapByRuns_eq_iff c sole⟩

/-- A text in lower case that begins with a mark of sole characters is that of a text with the mark
in front, up to the case of ASCII letters. -/
theorem lowerAfter_eq_append_iff {mark rest : List Char} (sole : ∀ x ∈ mark, IsSole x)
    (before cs : List Char) :
    lowerAfter before cs = mark ++ rest ↔
      ∃ a b, a ++ b = cs ∧ a.map asciiLowerChar = mark ∧
      lowerAfter (a.reverse ++ before) b = rest := by
  induction mark generalizing before cs with
  | nil => simp
  | cons x mark ih =>
    obtain ⟨first, others⟩ := List.forall_mem_cons.mp sole
    cases cs with
    | nil => exact iff_of_false nofun (by simp)
    | cons c more =>
      by_cases dotted : c = dottedI
      · subst dotted
        rw [lowerAfter_dottedI, List.cons_append, List.cons.injEq]
        refine iff_of_false (fun h => first.ofNat_ne (.inr (.inl rfl)) h.1) ?_
        rintro ⟨a, b, whole, mapped, -⟩
        obtain ⟨d, a, rfl, image, -⟩ := List.map_eq_cons_iff.mp mapped
        obtain rfl := (List.cons.inj whole).1
        exact first.ne_of_le (by decide) image
      · obtain ⟨d, image, same⟩ := lowerAfter_cons dotted before more
        rw [image, List.cons_append, List.cons.injEq, ih others, same x first]
        constructor
        · rintro ⟨front, a, b, rfl, rfl, behind⟩
          exact ⟨c :: a, b, rfl, by rw [List.map_cons, front], by simpa using behind⟩
        · rintro ⟨a, b, whole, mapped, behind⟩
          obtain ⟨e, a, rfl, front, mapped⟩ := List.map_eq_cons_iff.mp mapped
          obtain ⟨rfl, remains⟩ := List.cons.inj whole
          exact ⟨front, a, b, remains, mapped, by simpa using behind⟩

/-- A mark of sole characters begins a text in lower case if it begins it up to the case of ASCII
letters. -/
theorem isPrefix_lowerAfter_iff {mark : List Char} (sole : ∀ x ∈ mark, IsSole x)
    (before cs : List Char) :
    mark <+: lowerAfter before cs ↔ mark <+: cs.map asciiLowerChar := by
  constructor
  · rintro ⟨rest, starts⟩
    obtain ⟨a, b, rfl, rfl, -⟩ := (lowerAfter_eq_append_iff sole before cs).mp starts.symm
    exact ⟨b.map asciiLowerChar, List.map_append.symm⟩
  · rintro ⟨rest, starts⟩
    obtain ⟨a, b, rfl, mapped, -⟩ := List.map_eq_append_iff.mp starts.symm
    exact ⟨_, ((lowerAfter_eq_append_iff sole before _).mpr ⟨a, b, rfl, mapped, rfl⟩).symm⟩

theorem lowerAfter_eq_nil_iff (before cs : List Char) : lowerAfter before cs = [] ↔ cs = [] := by
  cases cs with
  | nil => exact iff_of_true rfl rfl
  | cons c rest =>
    refine iff_of_false ?_ nofun
    by_cases dotted : c = dottedI
    · rw [dotted, lowerAfter_dottedI]
      nofun
    · obtain ⟨d, image, -⟩ := lowerAfter_cons dotted before rest
      rw [image]
      nofun

theorem lowerAfter_eq_iff {mark : List Char} (sole : ∀ x ∈ mark, IsSole x) (before cs : List Char) :
    lowerAfter before cs = mark ↔ cs.map asciiLowerChar = mark := by
  rw [← List.append_nil mark, lowerAfter_eq_append_iff sole]
  simp [lowerAfter_eq_nil_iff]

/-- Such a mark ends a text in lower case if it ends what the text is in ASCII. -/
theorem isSuffix_lowerAfter_iff {mark : List Char} (sole : ∀ x ∈ mark, IsSole x)
    (before cs : List Char) :
    mark <:+ lowerAfter before cs ↔ mark <:+ cs.map asciiLowerChar := by
  induction cs generalizing before with
  | nil => rfl
  | cons c rest ih =>
    by_cases dotted : c = dottedI
    · subst dotted
      -- neither of the two characters is one of the mark
      have away {x : Char} (other : ¬ IsSole x) (cs : List Char) :
          mark <:+ x :: cs ↔ mark <:+ cs := by
        rw [List.suffix_cons_iff, or_iff_right]
        rintro rfl
        exact other (sole x List.mem_cons_self)
      rw [lowerAfter_dottedI, List.map_cons, away (by decide), away (by decide), ih,
        away (by decide)]
    · obtain ⟨d, image, -⟩ := lowerAfter_cons dotted before rest
      have whole := lowerAfter_eq_iff sole before (c :: rest)
      rw [image, List.map_cons] at whole
      rw [image, List.map_cons, List.suffix_cons_iff, List.suffix_cons_iff, ih, eq_comm, whole,
        eq_comm]

end QuotationPress.Text
