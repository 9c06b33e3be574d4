import Mathlib.Data.Bool.AllAny
import QuotationPress.Pdf.Preparation
import QuotationPress.Proofs.Page.StyleText
import QuotationPress.Proofs.Text.LowerCase

/-!
# Where the print style sheet goes

`HeadEnd html a b` says that `a` is what stands in a page before the first end tag of its head, in
any mix of letter cases, and `b` the rest. `insertPrintCss_headEnd`: the sheet, one style element,
is put between the two exactly if no dotted capital I stands in `a`. Each of them moves it by one
character to the right, for the place is counted in the page in lower case, where they are two
characters long.
-/

namespace QuotationPress

open Text (asciiLowerChar dottedI eq_of_asciiLowerChar lower lowerAfter)

/-! ### The end of the head -/

def headEndTag : List Char := "</head>".toList

/-- The text begins with the end tag of a head, in any mix of letter cases. -/
def StartsHeadEnd (cs : List Char) : Prop := headEndTag <+: cs.map asciiLowerChar

instance (cs : List Char) : Decidable (StartsHeadEnd cs) := inferInstanceAs (Decidable (_ <+: _))

/-- A page in two parts, cut before the first end tag of a head. -/
structure HeadEnd (html a b : List Char) : Prop where
  whole : a ++ b = html
  starts : StartsHeadEnd b
  first : ∀ a' b', a' ++ b' = html → StartsHeadEnd b' → a.length ≤ a'.length

theorem not_startsHeadEnd_nil : ¬ StartsHeadEnd [] := by
  intro h
  cases List.prefix_nil.mp h

/-- A page with some end tag of a head has a first one. -/
theorem exists_headEnd {html : List Char} (has : ∃ a b, a ++ b = html ∧ StartsHeadEnd b) :
    ∃ a b, HeadEnd html a b := by
  induction html with
  | nil =>
    obtain ⟨a, b, whole, starts⟩ := has
    obtain ⟨-, rfl⟩ := List.append_eq_nil_iff.mp whole
    exact absurd starts not_startsHeadEnd_nil
  | cons c rest ih =>
    by_cases here : StartsHeadEnd (c :: rest)
    · exact ⟨[], c :: rest, rfl, here, fun _ _ _ _ => Nat.zero_le _⟩
    · -- the tag does not stand at the front, so that it stands in the rest
      have later {a' b' : List Char} (whole : a' ++ b' = c :: rest) (starts : StartsHeadEnd b') :
          ∃ a'', a' = c :: a'' ∧ a'' ++ b' = rest := by
        cases a' with
        | nil => exact absurd (whole ▸ starts) here
        | cons d a'' =>
          obtain ⟨rfl, same⟩ := List.cons.inj whole
          exact ⟨a'', rfl, same⟩
      obtain ⟨a, b, whole, starts⟩ := has
      obtain ⟨a, rfl, inRest⟩ := later whole starts
      obtain ⟨a, b, h⟩ := ih ⟨a, b, inRest, starts⟩
      refine ⟨c :: a, b, by rw [List.cons_append, h.whole], h.starts, fun a' b' whole starts => ?_⟩
      obtain ⟨a'', rfl, inRest⟩ := later whole starts
      exact Nat.succ_le_succ (h.first a'' b' inRest starts)

theorem HeadEnd.tail {c : Char} {a b : List Char} (h : HeadEnd (c :: a ++ b) (c :: a) b) :
    HeadEnd (a ++ b) a b :=
  ⟨rfl, h.starts, fun a' b' whole starts =>
    Nat.le_of_succ_le_succ (h.first (c :: a') b' (congrArg (c :: ·) whole) starts)⟩

/-! ### The place that is found -/

theorem findPart?_of_prefix {part cs : List Char} (h : part <+: cs) :
    findPart? part cs = some 0 := by
  cases cs with
  | nil => simp [findPart?, List.prefix_nil.mp h]
  | cons c rest => rw [findPart?, if_pos (List.isPrefixOf_iff_prefix.mpr h)]

theorem findPart?_cons {part rest : List Char} {c : Char} (h : ¬ part <+: c :: rest) :
    findPart? part (c :: rest) = (findPart? part rest).map (· + 1) := by
  rw [findPart?, if_neg fun found => h (List.isPrefixOf_iff_prefix.mp found)]

/-- No letter beyond ASCII has an ASCII letter of the tag as its small one. -/
theorem startsHeadEnd_iff (before cs : List Char) :
    headEndTag <+: lowerAfter before cs ↔ StartsHeadEnd cs :=
  Text.isPrefix_lowerAfter_iff (List.all_iff_forall_prop.mp (by decide)) before cs

/-- The place in lower case: each dotted capital I before it counts twice. -/
theorem findPart?_lowerAfter {a b : List Char} (h : HeadEnd (a ++ b) a b) (before : List Char) :
    findPart? headEndTag (lowerAfter before (a ++ b)) = some (a.length + a.count dottedI) := by
  induction a generalizing before with
  | nil => exact findPart?_of_prefix ((startsHeadEnd_iff before b).mpr h.starts)
  | cons c a ih =>
    have found := ih h.tail (c :: before)
    have away : ¬ headEndTag <+: lowerAfter before (c :: a ++ b) := fun starts =>
      absurd (h.first [] _ rfl ((startsHeadEnd_iff _ _).mp starts)) (by simp)
    rw [List.cons_append] at away ⊢
    -- a dotted capital I becomes two characters, and the tag begins with neither of them
    by_cases dotted : c = dottedI
    · subst dotted
      rw [Text.lowerAfter_dottedI] at away ⊢
      have between : ¬ headEndTag <+: Char.ofNat 0x307 :: lowerAfter (dottedI :: before) (a ++ b) :=
        fun starts => absurd (List.cons_prefix_cons.mp starts).1 (by decide)
      rw [findPart?_cons away, findPart?_cons between, found, List.count_cons_self]
      simp only [Option.map_some, List.length_cons]
      congr 1
      omega
    · obtain ⟨d, image, -⟩ := Text.lowerAfter_cons dotted before (a ++ b)
      rw [image] at away ⊢
      rw [findPart?_cons away, found, List.count_cons_of_ne dotted]
      simp only [Option.map_some, List.length_cons]
      congr 1
      omega

/-- Where the sheet comes to stand. -/
theorem insertPrintCss_of_headEnd (o : PdfOptions) {html : String} {a b : List Char}
    (h : HeadEnd html.toList a b) :
    (insertPrintCss o html).toList =
      a ++ b.take (a.count dottedI) ++ printStyle o ++ b.drop (a.count dottedI) := by
  have found : findPart? "</head>".toList (lower html.toList) =
      some (a.length + a.count dottedI) := by
    rw [← h.whole]
    exact findPart?_lowerAfter (h.whole.symm ▸ h) []
  unfold insertPrintCss
  simp only [found, String.toList_ofList]
  rw [← h.whole, insertAt, List.take_length_add_append, List.drop_length_add_append]

/-! ### The style element -/

/-- No tag starts in the print style sheet, whatever the margins hold. -/
theorem tagless_printSheet (o : PdfOptions) : Tagless (printSheet o).text := by
  have gap : Tagless " " := by decide
  have format : Tagless o.format.name := by cases o.format <;> decide
  have orientation : Tagless o.orientation.name := by cases o.orientation <;> decide
  have size := (format.append gap).append orientation
  have margins :=
    (((((tagless_escape o.margins.top).append gap).append (tagless_escape o.margins.right)).append
    gap).append (tagless_escape o.margins.bottom)).append gap |>.append
      (tagless_escape o.margins.left)
  have page : StyleRule.Tagless ⟨"@page", [("size", _), ("margin", _)]⟩ :=
    ⟨(by decide : Tagless "@page"),
      List.forall_mem_cons.mpr ⟨⟨(by decide : Tagless "size"), size⟩,
        List.forall_mem_singleton.mpr ⟨(by decide : Tagless "margin"), margins⟩⟩⟩
  exact .append (.append page.text (by decide)) (tagless_media (by decide) (by decide +kernel))

/-- A style element with the print style sheet in it, which is closed by no other than the last
tag. -/
def IsPrintStyle (o : PdfOptions) (style : List Char) : Prop :=
  ∃ css : String, style = "<style>".toList ++ css.toList ++ "</style>".toList ∧
    css = "\n" ++ (printSheet o).text ∧ Tagless css

/-- The sheet is one style element, whatever the options hold. -/
theorem isPrintStyle_printStyle (o : PdfOptions) : IsPrintStyle o (printStyle o) :=
  ⟨_, by simp [printStyle, Markup.chars, Markup.startTag, Markup.endTag], rfl,
    .append (by decide) (tagless_printSheet o)⟩

/-! ### The page with its sheet -/

/-- The end tag of a head begins with a bracket and a stroke in any letter case. -/
theorem StartsHeadEnd.start {b : List Char} (h : StartsHeadEnd b) :
    ∃ rest, b = '<' :: '/' :: rest := by
  have shape : headEndTag = '<' :: '/' :: "head>".toList := rfl
  rw [StartsHeadEnd, shape] at h
  cases b with
  | nil => exact absurd (List.prefix_nil.mp h) (by simp)
  | cons c b =>
    rw [List.map_cons, List.cons_prefix_cons] at h
    obtain ⟨bracket, h⟩ := h
    cases b with
    | nil => exact absurd (List.prefix_nil.mp h) (by simp)
    | cons d rest =>
      rw [List.map_cons, List.cons_prefix_cons] at h
      obtain rfl := eq_of_asciiLowerChar (by decide) (by decide) bracket.symm
      obtain rfl := eq_of_asciiLowerChar (by decide) (by decide) h.1.symm
      exact ⟨rest, rfl⟩

/-- Moved to the right, the sheet stands somewhere else: the second character tells. -/
theorem take_append_ne {b : List Char} (h : StartsHeadEnd b) (o : PdfOptions) {k : ℕ}
    (moved : 0 < k) :
    b.take k ++ printStyle o ++ b.drop k ≠ printStyle o ++ b := by
  obtain ⟨rest, rfl⟩ := h.start
  obtain ⟨css, style, -, -⟩ := isPrintStyle_printStyle o
  have start : printStyle o = '<' :: 's' :: ("tyle>".toList ++ css.toList ++ "</style>".toList) :=
    style
  rw [start]
  intro same
  obtain _ | _ | k := k
  · exact absurd moved (lt_irrefl 0)
  · exact absurd (congrArg (·[1]?) same) (by simp)
  · exact absurd (congrArg (·[1]?) same) (by simp)

/-- The sheet is put right before the end of the head exactly if no dotted capital I stands before
it; in any case it is one style element, and each dotted capital I moves it by one character. -/
theorem insertPrintCss_headEnd (o : PdfOptions) {html : String}
    (has : ∃ a b, a ++ b = html.toList ∧ StartsHeadEnd b) :
    IsPrintStyle o (printStyle o) ∧ ∃ a b, HeadEnd html.toList a b ∧
      (insertPrintCss o html).toList =
        a ++ b.take (a.count dottedI) ++ printStyle o ++ b.drop (a.count dottedI) ∧
      ((insertPrintCss o html).toList = a ++ printStyle o ++ b ↔ dottedI ∉ a) := by
  obtain ⟨a, b, h⟩ := exists_headEnd has
  have placed := insertPrintCss_of_headEnd o h
  refine ⟨isPrintStyle_printStyle o, a, b, h, placed, ?_⟩
  rw [placed]
  constructor
  · intro same dotted
    refine take_append_ne h.starts o (List.count_pos_iff.mpr dotted) ?_
    simpa using same
  · intro plain
    simp [List.count_eq_zero.mpr plain]

/-- A page with letters beyond ASCII in its title, and an end tag in mixed case. -/
def craneOffer : String := "<html><head><title>Kräne ΑΣ</title></HeaD><body></body></html>"

theorem craneOffer_headEnd : (∃ a b, a ++ b = craneOffer.toList ∧ StartsHeadEnd b) ∧
    ∃ a b, HeadEnd craneOffer.toList a b ∧ dottedI ∉ a ∧
      (insertPrintCss {} craneOffer).toList = a ++ printStyle {} ++ b := by
  have has : ∃ a b, a ++ b = craneOffer.toList ∧ StartsHeadEnd b :=
    ⟨craneOffer.toList.take 35, craneOffer.toList.drop 35, List.take_append_drop ..,
      by decide +kernel⟩
  obtain ⟨-, a, b, h, -, right⟩ := insertPrintCss_headEnd {} has
  have plain : dottedI ∉ craneOffer.toList := by decide +kernel
  have before : dottedI ∉ a := fun inside => plain (h.whole ▸ List.mem_append_left b inside)
  exact ⟨has, a, b, h, before, right.mpr before⟩

/-- A page with a dotted capital I in its title. -/
def istanbulOffer : String := "<html><head><title>İstanbul</title></head><body></body></html>"

/-- The sheet stands inside the end tag of the head. -/
theorem istanbulOffer_misplaced : ¬ ∀ (o : PdfOptions) (html : String),
    (∃ a b, a ++ b = html.toList ∧ StartsHeadEnd b) →
      ∃ a b, HeadEnd html.toList a b ∧ (insertPrintCss o html).toList = a ++ printStyle o ++ b := by
  intro always
  have has : ∃ a b, a ++ b = istanbulOffer.toList ∧ StartsHeadEnd b :=
    ⟨istanbulOffer.toList.take 35, istanbulOffer.toList.drop 35, List.take_append_drop ..,
      by decide +kernel⟩
  obtain ⟨a, b, h, same⟩ := always {} istanbulOffer has
  have early : ∀ n ≤ 19, ¬ StartsHeadEnd (istanbulOffer.toList.drop n) := by decide +kernel
  have rest : istanbulOffer.toList.drop a.length = b := by rw [← h.whole, List.drop_left]
  -- the tag comes after the letter, which is the twentieth character of the page
  have behind : 19 < a.length := by
    by_contra short
    exact early a.length (not_lt.mp short) (rest ▸ h.starts)
  have letter : (a ++ b)[19]? = some dottedI := by
    rw [h.whole]
    decide +kernel
  rw [List.getElem?_append_left behind] at letter
  rw [insertPrintCss_of_headEnd {} h] at same
  refine take_append_ne h.starts {} (List.count_pos_iff.mpr (List.mem_of_getElem? letter)) ?_
  simpa using same

end QuotationPress
