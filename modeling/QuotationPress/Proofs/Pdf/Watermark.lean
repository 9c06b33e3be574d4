import Mathlib.Data.List.Infix
import QuotationPress.Pdf.Preparation
import QuotationPress.Proofs.Page.PageParts
import QuotationPress.Proofs.Page.StyleText
import QuotationPress.Proofs.Text.LowerCase

/-!
# Where the overlay goes

A page is its `opening`, up to the end of the head, the start tag of its body, and what is `inside`
and behind it. `Page.toList_addWatermark`: the overlay is put right behind the start tag of the body
exactly if the style sheet holds no `<body`, in any mix of letter cases; all other texts of a page
are escaped, so that nothing else can be taken for the tag. If the sheet holds one, the overlay ends
up in the opening.
-/

namespace QuotationPress

open Text (asciiLowerChar eq_of_asciiLowerChar)

/-! ### Marks of a body -/

/-- What every start tag of a body begins with. -/
def bodyMark : List Char := "<body".toList

/-- The text begins with a body mark, in any mix of letter cases. -/
def StartsBody (cs : List Char) : Prop := bodyMark <+: cs.map asciiLowerChar

/-- A body mark stands somewhere in the text. -/
def HoldsBody (cs : List Char) : Prop := bodyMark <:+: cs.map asciiLowerChar

instance (cs : List Char) : Decidable (StartsBody cs) := inferInstanceAs (Decidable (_ <+: _))

instance (cs : List Char) : Decidable (HoldsBody cs) := inferInstanceAs (Decidable (_ <:+: _))

variable {a b : List Char}

theorem StartsBody.append (h : StartsBody a) (b : List Char) : StartsBody (a ++ b) := by
  rw [StartsBody, List.map_append]
  exact h.trans (List.prefix_append _ _)

theorem StartsBody.holdsBody (h : StartsBody b) (a : List Char) : HoldsBody (a ++ b) := by
  rw [HoldsBody, List.map_append]
  exact h.isInfix.trans (List.suffix_append _ _).isInfix

/-- A text that holds a mark can be cut in front of one. -/
theorem HoldsBody.cut {cs : List Char} (h : HoldsBody cs) : ∃ a b, a ++ b = cs ∧ StartsBody b := by
  obtain ⟨s, t, same⟩ := h
  rw [List.append_assoc, eq_comm] at same
  obtain ⟨a, b, rfl, rfl, starts⟩ := List.map_eq_append_iff.mp same
  exact ⟨a, b, rfl, t, starts.symm⟩

/-- No bracket stands inside a mark, so that none begins in front of one and goes on behind it. -/
theorem eq_nil_of_straddle {s t : List Char} (whole : s ++ t = bodyMark) (inside : s ≠ [])
    (h : t <+: ('<' :: b).map asciiLowerChar) : t = [] := by
  rcases t with _ | ⟨c, t⟩
  · rfl
  · obtain ⟨rfl, -⟩ := List.cons_prefix_cons.mp h
    obtain ⟨d, s, rfl⟩ := List.exists_cons_of_ne_nil inside
    have later : asciiLowerChar '<' ∈ bodyMark.tail := by
      rw [← whole]
      simp
    exact absurd later (by decide)

/-- A mark that begins before a bracket ends before it. -/
theorem StartsBody.of_append (h : StartsBody (a ++ '<' :: b)) (inside : a ≠ []) : StartsBody a := by
  rw [StartsBody, List.map_append] at h
  rcases List.prefix_or_prefix_of_prefix h (List.prefix_append _ _) with within | ⟨t, whole⟩
  · exact within
  · rw [← whole, List.prefix_append_right_inj] at h
    rw [eq_nil_of_straddle whole (by simpa using inside) h, List.append_nil] at whole
    rw [StartsBody, whole]

/-- A border with a bracket behind it is crossed by no mark. -/
theorem holdsBody_append_bracket :
    HoldsBody (a ++ '<' :: b) ↔ HoldsBody a ∨ HoldsBody ('<' :: b) := by
  rw [HoldsBody, List.map_append, List.infix_append_iff]
  constructor
  · rintro (left | right | ⟨s, t, whole, left, right⟩)
    · exact .inl left
    · exact .inr right
    · -- a mark across the border lies wholly on one side of it
      rcases eq_or_ne s [] with rfl | inside
      · rw [HoldsBody, HoldsBody, whole]
        exact .inr right.isInfix
      · obtain rfl := eq_nil_of_straddle whole.symm inside right
        rw [HoldsBody, whole, List.append_nil]
        exact .inl left.isInfix
  · rintro (left | right)
    · exact .inl left
    · exact .inr (.inl right)

/-- A character that no mark has parts a text in two. -/
theorem holdsBody_append_cons {x : Char} (apart : asciiLowerChar x ∉ bodyMark) :
    HoldsBody (a ++ x :: b) ↔ HoldsBody a ∨ HoldsBody b := by
  have away {t : List Char} (part : t <:+: bodyMark)
      (h : t <+: asciiLowerChar x :: b.map asciiLowerChar) : t = [] := by
    rcases t with _ | ⟨c, t⟩
    · rfl
    · obtain ⟨rfl, -⟩ := List.cons_prefix_cons.mp h
      exact absurd (part.subset (List.mem_cons_self ..)) apart
  rw [HoldsBody, List.map_append, List.map_cons, List.infix_append_iff, List.infix_cons_iff]
  constructor
  · rintro (left | (front | right) | ⟨s, t, whole, left, right⟩)
    · exact .inl left
    · exact absurd (away List.infix_rfl front) (by decide)
    · exact .inr right
    · obtain rfl := away (whole ▸ (List.suffix_append s t).isInfix) right
      rw [HoldsBody, whole, List.append_nil]
      exact .inl left.isInfix
  · rintro (left | right)
    · exact .inl left
    · exact .inr (.inl (.inr right))

/-- Without a bracket there is no mark. -/
theorem not_holdsBody_of_plain (plain : '<' ∉ a) : ¬ HoldsBody a := by
  intro h
  have mem : '<' ∈ a.map asciiLowerChar := h.subset (by decide)
  obtain ⟨c, hc, same⟩ := List.mem_map.mp mem
  rw [eq_of_asciiLowerChar (by decide) (by decide) same] at hc
  exact plain hc

/-! ### The place that is found -/

/-- A start tag is found at the front of a text, with the next bracket as its end, or behind its
first character. -/
theorem bodyStartEnd?_cons (c : Char) (cs : List Char) :
    bodyStartEnd? (c :: cs) =
      if StartsBody (c :: cs) ∧ '>' ∈ c :: cs then some (((c :: cs).takeWhile (· ≠ '>')).length + 1)
      else (bodyStartEnd? cs).map (· + 1) := by
  rw [bodyStartEnd?]
  refine if_congr ?_ rfl rfl
  rw [Bool.and_eq_true, List.isPrefixOf_iff_prefix, List.contains_iff_mem, StartsBody, bodyMark]

/-- Where no mark begins, none is found. -/
theorem bodyStartEnd?_append (away : ∀ s t, s ++ t = a → t ≠ [] → ¬ StartsBody (t ++ b)) :
    bodyStartEnd? (a ++ b) = (bodyStartEnd? b).map (· + a.length) := by
  induction a with
  | nil => simp
  | cons c a ih =>
    have behind := ih fun s t whole => away (c :: s) t (congrArg (c :: ·) whole)
    -- none at the front, and none in what is behind the first character
    rw [List.cons_append, bodyStartEnd?_cons, if_neg fun h => away [] (c :: a) rfl (by simp) h.1,
      behind, Option.map_map]
    congr 1

/-- A run stops at the latest where its condition fails. -/
theorem length_takeWhile_append_lt {α : Type} {p : α → Bool} {x : α} {xs : List α} (mem : x ∈ xs)
    (stops : p x = false) (ys : List α) : ((xs ++ ys).takeWhile p).length < xs.length := by
  induction xs with
  | nil => cases mem
  | cons y xs ih =>
    rw [List.cons_append, List.takeWhile_cons]
    split
    · next goes =>
      rcases List.mem_cons.mp mem with rfl | later
      · rw [stops] at goes
        cases goes
      · exact Nat.succ_lt_succ (ih later)
    · exact Nat.succ_pos _

/-- A mark with a bracket behind it is found, if not at an earlier place. -/
theorem bodyStartEnd?_le (starts : StartsBody b) (closed : '>' ∈ b) (rest : List Char) :
    ∃ n, bodyStartEnd? (a ++ b ++ rest) = some n ∧ n ≤ (a ++ b).length := by
  induction a with
  | nil =>
    obtain ⟨c, b, rfl⟩ := List.exists_cons_of_ne_nil (List.ne_nil_of_mem closed)
    have whole := starts.append rest
    rw [List.nil_append, List.cons_append] at *
    rw [bodyStartEnd?_cons, if_pos ⟨whole, List.mem_append_left rest closed⟩]
    refine ⟨_, rfl, ?_⟩
    exact length_takeWhile_append_lt closed (by simp) rest
  | cons c a ih =>
    obtain ⟨n, found, short⟩ := ih
    have inside : '>' ∈ c :: a ++ b := List.mem_append_right _ closed
    rw [List.cons_append, List.cons_append, bodyStartEnd?_cons]
    split
    · exact ⟨_, rfl, length_takeWhile_append_lt inside (by simp) rest⟩
    · rw [found]
      exact ⟨n + 1, rfl, Nat.succ_le_succ short⟩

/-! ### The overlay -/

theorem WatermarkOptions.chars_markup (w : WatermarkOptions) :
    w.markup.chars = "<div class=\"watermark\" style=\"".toList ++ Text.escapeChars w.style.toList
      ++ '"' :: '>' :: Text.escapeChars w.text.toList ++ "</div>".toList := by
  simp [markup, Markup.chars, Markup.charsAll, Markup.startTag, Markup.endTag,
    Markup.attributeChars, Tag.word, Attribute.word, Text.escapeChars, Text.escapeChar]

/-- A tag in quote marks does not end as the overlay does: put in somewhere before, it cannot be
told to stand behind the tag. -/
theorem insertAt_ne (w : WatermarkOptions) {cs : List Char} {n : ℕ} (short : n ≤ cs.length)
    (rest : List Char) :
    insertAt n w.markup.chars (cs ++ '"' :: '>' :: rest) ≠
      cs ++ '"' :: '>' :: w.markup.chars ++ rest := by
  obtain ⟨x, ending⟩ : ∃ x, w.markup.chars = x ++ ['v', '>'] :=
    ⟨_, by rw [w.chars_markup]; exact (List.append_assoc _ "</di".toList ['v', '>']).symm⟩
  intro same
  rw [insertAt, List.take_append_of_le_length short, List.drop_append_of_le_length short,
    ending] at same
  -- the same page, cut once behind the overlay and once before its last two characters
  have shifted : (cs.take n ++ (x ++ ['v', '>']) ++ cs.drop n) ++ '"' :: '>' :: rest =
      (cs ++ '"' :: '>' :: x) ++ 'v' :: '>' :: rest := by
    simpa using same
  have lengths : (cs.take n ++ (x ++ ['v', '>']) ++ cs.drop n).length =
      (cs ++ '"' :: '>' :: x).length := by
    simp only [List.length_append, List.length_take, List.length_drop, List.length_cons,
      List.length_nil]
    omega
  have mark := (List.append_inj shifted lengths).2
  exact absurd (List.cons.inj mark).1 (by decide)

/-! ### Marks in a page -/

namespace Page

/-- In the opening of a page only the style sheet can hold a mark: the number is escaped, and the
rest is fixed. -/
theorem holdsBody_opening (p : Page) : HoldsBody p.opening ↔ HoldsBody p.css.toList := by
  have number : ¬ HoldsBody (Text.escapeChars ("Quotation " ++ p.number).toList) :=
    not_holdsBody_of_plain fun h => (Text.plain_of_mem_escapeChars h).1.1 rfl
  have front : ¬ HoldsBody titleStart := by decide +kernel
  have between : ¬ HoldsBody ('<' :: "/title>\n<style>".toList) := by decide +kernel
  have behind : ¬ HoldsBody "</style>\n</head>\n".toList := by decide +kernel
  rw [opening_eq, holdsBody_append_cons (by decide), holdsBody_append_cons (by decide),
    holdsBody_append_bracket, holdsBody_append_cons (by decide)]
  simp only [number, front, between, behind, false_or, or_false]

/-! ### The page with its overlay -/

/-- Where a start tag is found, the overlay is put behind it, and nothing else changes. -/
theorem toList_addWatermark_of_found (w : WatermarkOptions) {html : String} {n : ℕ}
    (found : bodyStartEnd? html.toList = some n) :
    (addWatermark w html).toList = insertAt n w.markup.chars html.toList := by
  unfold addWatermark
  simp only [found, String.toList_ofList]

/-- The start tag of the body ends in a quote mark and a bracket. -/
theorem bodyTag_quoted (p : Page) : ∃ tag, p.bodyTag = tag ++ ['"', '>'] := by
  unfold bodyTag
  cases p.preview with
  | true => exact ⟨"<body class=\"preview".toList, rfl⟩
  | false => exact ⟨"<body class=\"document".toList, rfl⟩

/-- The start tag of the body is found by itself, with its own bracket as its end. -/
theorem bodyTag_append (p : Page) (rest : List Char) :
    ∃ cs, p.bodyTag ++ rest = '<' :: cs ∧
      bodyStartEnd? (p.bodyTag ++ rest) = some p.bodyTag.length := by
  unfold bodyTag
  cases p.preview with
  | true => exact ⟨_, rfl, rfl⟩
  | false => exact ⟨_, rfl, rfl⟩

/-- Without a mark in the style sheet, the first tag that is found is the one of the body. -/
theorem bodyStartEnd?_of_free {p : Page} (free : ¬ HoldsBody p.css.toList) :
    bodyStartEnd? p.text.toList = some (p.opening ++ p.bodyTag).length := by
  obtain ⟨cs, bracket, found⟩ := p.bodyTag_append p.inside
  rw [toList_text, List.append_assoc, bodyStartEnd?_append, found, Option.map_some,
    List.length_append, Nat.add_comm]
  -- a mark that begins in the opening would lie in it, for the tag behind it begins with a bracket
  intro s t whole some starts
  rw [bracket] at starts
  exact free (p.holdsBody_opening.mp (whole ▸ (starts.of_append some).holdsBody s))

/-- A mark in the style sheet is taken for the tag, with all behind it up to the next bracket; there
is one at the end of the head. -/
theorem bodyStartEnd?_of_held {p : Page} (held : HoldsBody p.css.toList) :
    ∃ n, bodyStartEnd? p.text.toList = some n ∧ n ≤ p.opening.length := by
  obtain ⟨a, b, whole, starts⟩ := (p.holdsBody_opening.mpr held).cut
  have closed : '>' ∈ b := by
    -- the opening ends with the end tag of the head, which no mark reaches into
    have ends : ['>', '\n'] <:+ p.opening := by
      have last : ['>', '\n'] <:+ "</style>\n</head>\n".toList := ⟨"</style>\n</head".toList, rfl⟩
      have lines := (last.trans (List.suffix_cons '\n' _)).trans (List.suffix_append p.css.toList _)
      rw [opening_eq]
      exact (lines.trans (List.suffix_cons ..)).trans
        ((List.suffix_append ..).trans ((List.suffix_cons ..).trans (List.suffix_append ..)))
    -- what begins with a mark is longer than that
    have long : ['>', '\n'].length ≤ b.length := by
      have := starts.length_le
      rw [List.length_map] at this
      exact le_trans (by decide) this
    exact (List.suffix_of_suffix_length_le ends ⟨a, whole⟩ long).subset (List.mem_cons_self ..)
  rw [toList_text, List.append_assoc, ← whole]
  exact bodyStartEnd?_le starts closed _

/-- The overlay stands right behind the start tag of the body exactly if the style sheet holds no
body mark; if it holds one, the overlay stands in the opening. Nothing else of the page changes. -/
theorem toList_addWatermark (p : Page) (w : WatermarkOptions) :
    ((addWatermark w p.text).toList = p.opening ++ p.bodyTag ++ w.markup.chars ++ p.inside ↔
      ¬ HoldsBody p.css.toList) ∧
    (HoldsBody p.css.toList → ∃ a b, a ++ b = p.text.toList ∧ a <+: p.opening ∧
      (addWatermark w p.text).toList = a ++ w.markup.chars ++ b) := by
  have misplaced (held : HoldsBody p.css.toList) : ∃ n ≤ p.opening.length,
      (addWatermark w p.text).toList = insertAt n w.markup.chars p.text.toList := by
    obtain ⟨n, found, early⟩ := bodyStartEnd?_of_held held
    exact ⟨n, early, toList_addWatermark_of_found w found⟩
  refine ⟨⟨fun placed held => ?_, fun free => ?_⟩, fun held => ?_⟩
  · obtain ⟨n, early, elsewhere⟩ := misplaced held
    obtain ⟨tag, quoted⟩ := p.bodyTag_quoted
    rw [elsewhere, toList_text, quoted] at placed
    -- the place in the opening lies before the quote mark of the tag
    have short : n ≤ (p.opening ++ tag).length := by
      rw [List.length_append]
      omega
    exact insertAt_ne w short p.inside (by simpa using placed)
  · rw [toList_addWatermark_of_found w (bodyStartEnd?_of_free free), toList_text, insertAt,
      List.take_left, List.drop_left]
  · obtain ⟨n, early, elsewhere⟩ := misplaced held
    refine ⟨p.text.toList.take n, p.text.toList.drop n, List.take_append_drop .., ?_, elsewhere⟩
    rw [toList_text, List.append_assoc, List.take_append_of_le_length early]
    exact List.take_prefix ..

end Page

/-! ### The style sheet of a template -/

theorem holdsBody_cons {c : Char} : HoldsBody (c :: a) ↔ StartsBody (c :: a) ∨ HoldsBody a := by
  rw [HoldsBody, List.map_cons, List.infix_cons_iff, HoldsBody, StartsBody, List.map_cons]

theorem not_startsBody_cons {c : Char} (other : c ≠ '<') : ¬ StartsBody (c :: a) := fun h =>
  other (eq_of_asciiLowerChar (by decide) (by decide) (List.cons_prefix_cons.mp h).1.symm)

/-- A run without brackets begins a text whether end tags are broken up in it or not. -/
theorem prefix_withoutEndTags {m : List Char} (plain : '<' ∉ m) (cs : List Char) :
    m <+: (withoutEndTags cs).map asciiLowerChar ↔ m <+: cs.map asciiLowerChar := by
  induction m generalizing cs with
  | nil => exact iff_of_true List.nil_prefix List.nil_prefix
  | cons x m ih =>
    obtain ⟨first, others⟩ := not_or.mp (List.mem_cons.not.mp plain)
    fun_cases withoutEndTags cs with
    | case1 rest =>
      -- both texts begin with the bracket of the end tag
      simp only [List.map_cons, List.cons_prefix_cons]
      exact iff_of_false (fun h => first h.1.symm) fun h => first h.1.symm
    | case2 c rest =>
      rw [List.map_cons, List.map_cons, List.cons_prefix_cons, List.cons_prefix_cons, ih others]
    | case3 => rfl

/-- Breaking up end tags neither makes nor spoils a body mark. -/
theorem holdsBody_withoutEndTags (cs : List Char) :
    HoldsBody (withoutEndTags cs) ↔ HoldsBody cs := by
  fun_induction withoutEndTags cs with
  | case1 rest ih =>
    -- neither an end tag nor what it is broken up into begins a mark
    have broken : ¬ StartsBody ('<' :: '\\' :: '/' :: withoutEndTags rest) := fun h =>
      absurd (List.cons_prefix_cons.mp (List.cons_prefix_cons.mp h).2).1 (by decide)
    have whole : ¬ StartsBody ('<' :: '/' :: rest) := fun h =>
      absurd (List.cons_prefix_cons.mp (List.cons_prefix_cons.mp h).2).1 (by decide)
    simp only [holdsBody_cons, broken, whole, not_startsBody_cons (show '\\' ≠ '<' by decide),
      not_startsBody_cons (show '/' ≠ '<' by decide), false_or, ih]
  | case2 c rest _ ih =>
    have start : StartsBody (c :: withoutEndTags rest) ↔ StartsBody (c :: rest) := by
      have shape : bodyMark = '<' :: "body".toList := rfl
      rw [StartsBody, StartsBody, shape, List.map_cons, List.map_cons, List.cons_prefix_cons,
        List.cons_prefix_cons, prefix_withoutEndTags (by decide)]
    rw [holdsBody_cons, holdsBody_cons, start, ih]
  | case3 => rfl

/-- A body mark comes to the sheet of a template with its custom rules, or with what it sets in
those of its theme. -/
theorem holdsBody_themeCss {t : Template} {preview : Bool} {css : String}
    (h : themeCss t preview = .ok css) :
    ∃ p margins, Palette.of t.theme t.branding = .ok p ∧ marginsCss t.settings = .ok margins ∧
      (HoldsBody css.toList ↔ HoldsBody (themeSheet p margins preview).text.toList ∨
        ∃ rules, customRules? t.branding = some rules ∧ HoldsBody rules.toList) := by
  obtain ⟨p, palette, h⟩ := Outcome.bind_eq_ok.mp h
  obtain ⟨margins, hmargins, h⟩ := Outcome.bind_eq_ok.mp h
  refine ⟨p, margins, palette, hmargins, ?_⟩
  rw [← Except.ok.inj h, String.toList_ofList, holdsBody_withoutEndTags]
  cases customRules? t.branding with
  | none => simp
  | some rules =>
    have heading : ¬ HoldsBody "/* branding */".toList := by decide +kernel
    have parts (sheet : List Char) :
        sheet ++ "\n/* branding */\n".toList ++ rules.toList ++ "\n".toList =
          sheet ++ '\n' :: ("/* branding */".toList ++ '\n' :: (rules.toList ++ '\n' :: [])) := by
      simp
    simp only [String.toList_append, parts]
    rw [holdsBody_append_cons (by decide), holdsBody_append_cons (by decide),
      holdsBody_append_cons (by decide)]
    have nothing : ¬ HoldsBody [] := by decide
    simp only [heading, nothing, false_or, or_false, Option.some.injEq, exists_eq_left']

/-! ### Pages of templates -/

/-- What is done to the page of a template: its overlay is put right behind the start tag of its
body, and nothing else changes, exactly if no body mark stands in its style sheet. -/
theorem renderPage_addWatermark {t : Template} {c : RenderContext} {preview : Bool} {html : String}
    (h : renderPage t c preview = .ok html) (w : WatermarkOptions) :
    ∃ p : Page, pageOf t c preview = .ok p ∧ themeCss t preview = .ok p.css ∧
      html.toList = p.opening ++ p.bodyTag ++ p.inside ∧
      ((addWatermark w html).toList = p.opening ++ p.bodyTag ++ w.markup.chars ++ p.inside ↔
        ¬ HoldsBody p.css.toList) ∧
      (HoldsBody p.css.toList → ∃ a b, a ++ b = html.toList ∧ a <+: p.opening ∧
        (addWatermark w html).toList = a ++ w.markup.chars ++ b) := by
  obtain ⟨p, page, h⟩ := Outcome.bind_eq_ok.mp h
  obtain rfl := Except.ok.inj h
  obtain ⟨placed, elsewhere⟩ := p.toList_addWatermark w
  exact ⟨p, page, (pageOf_parts page).1, p.toList_text, placed, elsewhere⟩

/-- A template that writes of bodies in every text but its style sheet. -/
def bodilyTemplate : Template :=
  { name := "<body>"
    elements :=
      [{ id := "a", type := "text", content := .str "<body>" },
       { id := "b", type := "<body>", content := .obj [("text", .str "<BODY class=x>")] }]
    branding := [("customCSS", .str "/* body > p and the <bodice> */")] }

/-- The modern theme with the standard margins has no tag in its sheet. -/
theorem tagless_modernSheet :
    Tagless (themeSheet Theme.modern.palette "20px 20px 20px 20px" false).text := by
  refine tagless_sheet fun b hb => ?_
  rcases List.mem_append.mp hb with rule | media
  · have each : ∀ r ∈ screenRules Theme.modern.palette "20px 20px 20px 20px" false
        ++ tableRules Theme.modern.palette ++ blockRules Theme.modern.palette, r.Tagless := by
          decide +kernel
    obtain ⟨r, hr, rfl⟩ := List.mem_map.mp rule
    exact (each r hr).text
  · rw [List.mem_singleton.mp media]
    exact tagless_media (by decide) (by decide +kernel)

theorem bodilyTemplate_addWatermark : ∃ html, renderPage bodilyTemplate {} false = .ok html ∧
    ∃ p : Page, html.toList = p.opening ++ p.bodyTag ++ p.inside ∧
      (addWatermark { text := "<body>" } html).toList =
        p.opening ++ p.bodyTag ++ (WatermarkOptions.markup { text := "<body>" }).chars ++
          p.inside := by
  obtain ⟨html, h⟩ : Outcome.Succeeds (renderPage bodilyTemplate {} false) := by decide +kernel
  obtain ⟨p, -, css, cut, placed, -⟩ := renderPage_addWatermark h { text := "<body>" }
  refine ⟨html, h, p, cut, placed.mpr fun inSheet => ?_⟩
  obtain ⟨palette, margins, hpalette, hmargins, held⟩ := holdsBody_themeCss css
  -- neither the theme nor the custom rules hold a mark
  rcases held.mp inSheet with inTheme | ⟨rules, custom, inRules⟩
  · have modern : (Palette.of bodilyTemplate.theme bodilyTemplate.branding).toOption =
        some Theme.modern.palette := by
      decide +kernel
    have standard : (marginsCss bodilyTemplate.settings).toOption = some "20px 20px 20px 20px" := by
      decide +kernel
    rw [hpalette] at modern
    rw [hmargins] at standard
    rw [Option.some.inj modern, Option.some.inj standard] at inTheme
    exact not_holdsBody_of_plain tagless_modernSheet inTheme
  · have written : customRules? bodilyTemplate.branding =
        some "/* body > p and the <bodice> */" := by
      decide +kernel
    rw [Option.some.inj (custom.symm.trans written)] at inRules
    exact absurd inRules (by decide +kernel)

/-- A template with a comment in its style sheet that speaks of the start tag. -/
def commentedOffer : Value :=
  .obj [("name", .str "Offer"), ("branding", .obj [("customCSS", .str "/* <body> */")])]

/-- The overlay stands inside the comment. -/
theorem commentedOffer_misplaced :
    ¬ ∀ (v : Value) (t : Template) (c : RenderContext) (preview : Bool) (p : Page)
    (w : WatermarkOptions), Template.read? v = .ok t → pageOf t c preview = .ok p →
      (addWatermark w p.text).toList = p.opening ++ p.bodyTag ++ w.markup.chars ++ p.inside := by
  intro always
  obtain ⟨t, read⟩ : Outcome.Succeeds (Template.read? commentedOffer) := by decide +kernel
  obtain ⟨p, page⟩ : Outcome.Succeeds (Template.read? commentedOffer >>= fun t =>
      pageOf t {} false) := by
    decide +kernel
  have custom : (Template.read? commentedOffer).toOption.bind (fun t => customRules? t.branding) =
      some "/* <body> */" := by decide +kernel
  rw [read] at page custom
  obtain ⟨_, _, -, -, held⟩ := holdsBody_themeCss (pageOf_parts page).1
  have inRules : HoldsBody "/* <body> */".toList := by decide +kernel
  exact (p.toList_addWatermark {}).1.mp (always _ t {} false p {} read page)
    (held.mpr (.inr ⟨_, custom, inRules⟩))

end QuotationPress
