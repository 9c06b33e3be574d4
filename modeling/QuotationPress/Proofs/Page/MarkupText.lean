import Mathlib.Algebra.FreeMonoid.Basic
import Mathlib.Data.List.Infix
import QuotationPress.Proofs.Page.ViewTotals

/-!
# The text of a page as a text of markup

`MarkupText cs sheets` says that `cs` is a run of texts without angle brackets and of tags from a
fixed vocabulary, properly nested and all closed, and that `sheets` are the style sheets in it, in
order. `renderPage_markupText`: every page is such a text behind the declaration of its type, with
one style sheet; whatever the template and the context hold, none of it becomes markup.
-/

namespace QuotationPress

/-! ### The grammar -/

/-- Words of tags that enclose something. -/
def enclosingWords : List String :=
  ["html", "head", "title", "body", "div", "header", "h1", "h2", "h3", "h4", "p", "span", "section",
    "dl", "dt", "dd", "table", "thead", "tbody", "tr", "th", "td"]

/-- Words of tags that stand alone. -/
def loneWords : List String := ["meta", "img"]

def attributeWords : List String :=
  ["lang", "charset", "name", "content", "class", "style", "src", "alt", "colspan"]

/-- A character that is no angle bracket. -/
def IsPlain (c : Char) : Prop := c ≠ '<' ∧ c ≠ '>'

instance (c : Char) : Decidable (IsPlain c) := inferInstanceAs (Decidable (_ ∧ _))

/-- The attributes of a tag: known words, and values between quote marks that hold neither a quote
mark nor an angle bracket. -/
inductive AttributeText : List Char → Prop
  | nil : AttributeText []
  | cons {word : String} {value rest : List Char} (known : word ∈ attributeWords)
      (plain : ∀ c ∈ value, IsPlain c ∧ c ≠ '"') (more : AttributeText rest) :
      AttributeText (' ' :: word.toList ++ '=' :: '"' :: value ++ '"' :: rest)

/-- A run of texts and tags, and the style sheets in it. -/
inductive MarkupText : List Char → List (List Char) → Prop
  | nil : MarkupText [] []
  | text {c : Char} {rest : List Char} {sheets : List (List Char)} (plain : IsPlain c)
      (more : MarkupText rest sheets) : MarkupText (c :: rest) sheets
  | lone {word : String} {attributes rest : List Char} {sheets : List (List Char)}
      (known : word ∈ loneWords) (attributed : AttributeText attributes)
      (more : MarkupText rest sheets) :
      MarkupText ('<' :: word.toList ++ attributes ++ '>' :: rest) sheets
  | element {word : String} {attributes inner rest : List Char} {sheets others : List (List Char)}
      (known : word ∈ enclosingWords) (attributed : AttributeText attributes)
      (inside : MarkupText inner sheets) (more : MarkupText rest others) :
      MarkupText ('<' :: word.toList ++ attributes ++ '>' :: inner
        ++ '<' :: '/' :: word.toList ++ '>' :: rest) (sheets ++ others)
  | sheet {css rest : List Char} {sheets : List (List Char)} (closed : ¬ ['<', '/'] <:+: css)
      (more : MarkupText rest sheets) :
      MarkupText ("<style>".toList ++ css ++ "</style>".toList ++ rest) (css :: sheets)

namespace MarkupText

variable {cs ds : List Char} {sheets others : List (List Char)}

/-- One run of markup behind another is a run of markup. -/
theorem append (h : MarkupText cs sheets) (h' : MarkupText ds others) :
    MarkupText (cs ++ ds) (sheets ++ others) := by
  induction h with
  | nil => exact h'
  | text plain _ ih => exact .text plain ih
  | lone known attributed _ ih => simpa using MarkupText.lone known attributed ih
  | element known attributed inside _ _ ih =>
    simpa using MarkupText.element known attributed inside ih
  | sheet closed _ ih => simpa using MarkupText.sheet closed ih

/-- A text without brackets is a run of markup. -/
theorem ofPlain (h : ∀ c ∈ cs, IsPlain c) : MarkupText cs [] := by
  induction cs with
  | nil => exact .nil
  | cons c rest ih =>
    exact .text (h c (List.mem_cons_self ..)) (ih fun d hd => h d (List.mem_cons_of_mem _ hd))

end MarkupText

/-! ### Escaped texts -/

/-- Nothing of an escaped text is a bracket or a quote mark. -/
theorem Text.plain_of_mem_escapeChars {cs : List Char} {c : Char} (h : c ∈ Text.escapeChars cs) :
    IsPlain c ∧ c ≠ '"' := by
  obtain ⟨d, -, hc⟩ := List.mem_flatMap.mp h
  have entities : ∀ entity ∈ ["&amp;", "&lt;", "&gt;", "&#39;", "&#34;"],
      ∀ c ∈ entity.toList, IsPlain c ∧ c ≠ '"' := by simp [IsPlain]
  unfold Text.escapeChar at hc
  -- each of the five is an entity, and any other character is itself
  split_ifs at hc with h1 h2 h3 h4 h5
  · exact entities "&amp;" (by simp) c hc
  · exact entities "&lt;" (by simp) c hc
  · exact entities "&gt;" (by simp) c hc
  · exact entities "&#39;" (by simp) c hc
  · exact entities "&#34;" (by simp) c hc
  · rw [List.mem_singleton.mp hc]
    exact ⟨⟨h2, h3⟩, h5⟩

namespace Markup

theorem word_mem_enclosingWords (tag : Tag) : tag.word ∈ enclosingWords := by
  cases tag <;> decide

theorem word_mem_loneWords (tag : VoidTag) : tag.word ∈ loneWords := by
  cases tag <;> decide

theorem word_mem_attributeWords (a : Attribute) : a.word ∈ attributeWords := by
  cases a <;> decide

/-- Attributes are written in the form the grammar gives them. -/
theorem attributeText_flatMap (attributes : Attributes) :
    AttributeText (attributes.flatMap attributeChars) := by
  induction attributes with
  | nil => exact .nil
  | cons a rest ih =>
    have plain : ∀ c ∈ Text.escapeChars a.2.toList, IsPlain c ∧ c ≠ '"' :=
      fun c hc => Text.plain_of_mem_escapeChars hc
    have h := AttributeText.cons (word_mem_attributeWords a.1) plain ih
    simpa [attributeChars] using h

/-! ### From the tree to its text -/

/-- The style sheets of a tree, one behind the other. -/
def Measure.sheets : Measure (FreeAddMonoid String) where
  tag _ := 0
  sheet := FreeAddMonoid.of

@[simp] theorem Measure.sheets_tag (attributes : Attributes) :
    Measure.sheets.tag attributes = 0 := rfl

@[simp] theorem Measure.sheets_sheet (css : String) :
    Measure.sheets.sheet css = FreeAddMonoid.of css := rfl

/-- Whether a style sheet can stand on a page: no end tag is in it. -/
def Sealed (css : String) : Prop := ¬ ['<', '/'] <:+: css.toList

mutual

/-- The text of a tree is a run of markup, with the style sheets of the tree. -/
theorem markupText_chars : ∀ m : Markup, (∀ css ∈ m.total .sheets, Sealed css) →
    MarkupText m.chars ((m.total .sheets).toList.map String.toList)
  | text s, _ => by
    simpa [chars] using MarkupText.ofPlain fun c hc => (Text.plain_of_mem_escapeChars hc).1
  | void tag attributes, _ => by
    simpa [chars, startTag] using
      MarkupText.lone (word_mem_loneWords tag) (attributeText_flatMap attributes) .nil
  | element tag attributes children, h => by
    rw [total_element, Measure.sheets_tag, zero_add] at h ⊢
    have inside := markupText_charsAll children h
    simpa [chars, startTag, endTag] using MarkupText.element (word_mem_enclosingWords tag)
      (attributeText_flatMap attributes) inside .nil
  | styleSheet css, h => by
    simpa [chars, startTag, endTag] using
      MarkupText.sheet (h css FreeAddMonoid.mem_of_self) .nil

theorem markupText_charsAll : ∀ ms : List Markup, (∀ css ∈ totalAll .sheets ms, Sealed css) →
    MarkupText (charsAll ms) ((totalAll .sheets ms).toList.map String.toList)
  | [], _ => .nil
  | m :: rest, h => by
    rw [charsAll, totalAll_cons, FreeAddMonoid.toList_add, List.map_append]
    exact (markupText_chars m fun css hcss => h css (FreeAddMonoid.mem_add.mpr (.inl hcss))).append
      (markupText_charsAll rest fun css hcss => h css (FreeAddMonoid.mem_add.mpr (.inr hcss)))

end

end Markup

/-! ### No element holds a style sheet -/

namespace ElementView

open Markup

/-- No tag is a style sheet. -/
theorem sheets_tag {as : Attributes} (_ : BesideRows as) : Measure.sheets.tag as = 0 := rfl

/-- Rows of data hold no style sheet. -/
theorem sheets_dataRows (alternate : Bool) (number : ℕ) (rows : List (List Cell)) :
    totalAll .sheets (dataRows alternate number rows) = 0 := by
  induction rows generalizing number with
  | nil => rfl
  | cons row rest ih => simp [dataRows, total_dataRow sheets_tag, ih]

theorem sheets_bodyRows (v : TableView) : totalAll .sheets (bodyRows v) = 0 := by
  unfold bodyRows emptyRow
  split_ifs
  · rfl
  · simp
  · exact sheets_dataRows _ _ _

/-- Whatever an element shows, it brings no style sheet with it. -/
theorem sheets_markup {v : ElementView} {m : Markup} (h : v.markup = .ok m) :
    m.total .sheets = 0 := by
  cases v with
  | table frame view => rw [total_markup_table sheets_tag h, sheets_bodyRows]
  | block frame title text bodyClass =>
    -- a block may have any class: it is no class that counts here
    rw [← Except.ok.inj h]
    simp [totalAll_titleLine sheets_tag]
  | header => exact total_markup_of_rowless sheets_tag (by trivial) h
  | info => exact total_markup_of_rowless sheets_tag (by trivial) h
  | totals => exact total_markup_of_rowless sheets_tag (by trivial) h
  | signature => exact total_markup_of_rowless sheets_tag (by trivial) h

end ElementView

/-! ### The style sheet of a page -/

/-- Breaking up end tags leaves the first character as it is. -/
theorem head?_withoutEndTags (cs : List Char) : (withoutEndTags cs).head? = cs.head? := by
  fun_cases withoutEndTags cs <;> rfl

/-- No end tag is left in what they are broken up in. -/
theorem not_infix_withoutEndTags (cs : List Char) : ¬ ['<', '/'] <:+: withoutEndTags cs := by
  fun_induction withoutEndTags cs with
  | case1 rest ih => simp [List.infix_cons_iff, ih]
  | case2 c rest other ih =>
    rw [List.infix_cons_iff]
    -- a new end tag could only be made at the front
    rintro (starts | inside)
    · obtain ⟨rfl, h⟩ := List.cons_prefix_cons.mp starts
      -- what follows a `<` begins as the text itself does there
      have slash : rest.head? = some '/' := by
        rw [← head?_withoutEndTags]
        obtain ⟨more, hm⟩ := h
        simp [← hm]
      obtain ⟨more, rfl⟩ := List.head?_eq_some_iff.mp slash
      exact other more rfl rfl
    · exact ih inside
  | case3 => simp

/-- The line breaks around a sheet make no end tag with it. -/
theorem sealed_framed {css : List Char} (h : ¬ ['<', '/'] <:+: css) :
    Markup.Sealed ("\n" ++ String.ofList css ++ "\n") := by
  have chars : ("\n" ++ String.ofList css ++ "\n").toList = '\n' :: (css ++ ['\n']) := by simp
  rw [Markup.Sealed, chars, List.infix_cons_iff, List.infix_concat_iff, List.suffix_concat_iff]
  -- the frame could make one at either end
  rintro (starts | (ends | ⟨others, ends, -⟩) | inside)
  · simp at starts
  · cases ends
  · exact absurd (congrArg List.getLast? ends) (by simp)
  · exact h inside

theorem themeCss_eq_ok {t : Template} {preview : Bool} {css : String}
    (h : themeCss t preview = .ok css) :
    ∃ cs, css = String.ofList (withoutEndTags cs) := by
  obtain ⟨p, -, h⟩ := Outcome.bind_eq_ok.mp h
  obtain ⟨margins, -, h⟩ := Outcome.bind_eq_ok.mp h
  exact ⟨_, (Except.ok.inj h).symm⟩

/-- A page has one style sheet, as long as its elements have none. -/
theorem Page.sheets_markup {p : Page} (h : ∀ m ∈ p.elements, m.total .sheets = 0) :
    p.markup.total .sheets = FreeAddMonoid.of ("\n" ++ p.css ++ "\n") := by
  have elements : Markup.totalAll .sheets (p.elements.flatMap fun m => [m, .newline]) = 0 :=
    Markup.totalAll_flatMap_of_zero fun m hm => by simp [h m hm]
  simp [markup, headMarkup, bodyMarkup, elements]

/-- The sheet of a page is that of its theme, and its elements are the views of the visible ones in
their markup. -/
theorem pageOf_parts {t : Template} {c : RenderContext} {preview : Bool} {p : Page}
    (h : pageOf t c preview = .ok p) : themeCss t preview = .ok p.css ∧
      ∃ symbol l views, Merge.Lookup.of? symbol c = .ok l ∧
      elementViews l t.branding t.elements = .ok views ∧
        views.mapM ElementView.markup = .ok p.elements := by
  unfold pageOf at h
  obtain ⟨symbol, -, h⟩ := Outcome.bind_eq_ok.mp h
  obtain ⟨l, known, h⟩ := Outcome.bind_eq_ok.mp h
  obtain ⟨views, drawn, h⟩ := Outcome.bind_eq_ok.mp h
  obtain ⟨title, -, h⟩ := Outcome.bind_eq_ok.mp h
  obtain ⟨css, hcss, h⟩ := Outcome.bind_eq_ok.mp h
  obtain ⟨number, -, h⟩ := Outcome.bind_eq_ok.mp h
  obtain ⟨elements, helements, h⟩ := Outcome.bind_eq_ok.mp h
  rw [← Except.ok.inj h]
  exact ⟨hcss, symbol, l, views, known, drawn, helements⟩

/-- The elements of a page bring no style sheet, and its own holds no end tag. -/
theorem pageOf_eq_ok {t : Template} {c : RenderContext} {preview : Bool} {p : Page}
    (h : pageOf t c preview = .ok p) :
    (∀ m ∈ p.elements, m.total .sheets = 0) ∧ Markup.Sealed ("\n" ++ p.css ++ "\n") := by
  obtain ⟨hcss, _, _, views, -, -, helements⟩ := pageOf_parts h
  refine ⟨fun m hm => ?_, ?_⟩
  · obtain ⟨v, -, hv⟩ := Outcome.mem_of_mapM_eq_ok helements hm
    exact v.sheets_markup hv
  · obtain ⟨cs, css⟩ := themeCss_eq_ok hcss
    rw [css]
    exact sealed_framed (not_infix_withoutEndTags cs)

/-- Every page is the declaration of its type and a text of markup with one style sheet, in which no
end tag stands. -/
theorem renderPage_markupText {t : Template} {c : RenderContext} {preview : Bool} {html : String}
    (h : renderPage t c preview = .ok html) :
    ∃ body css, html.toList = "<!DOCTYPE html>\n".toList ++ body ∧ MarkupText body [css] ∧
      ¬ ['<', '/'] <:+: css := by
  obtain ⟨p, hp, h⟩ := Outcome.bind_eq_ok.mp h
  obtain ⟨plain, closed⟩ := pageOf_eq_ok hp
  refine ⟨p.markup.chars, ("\n" ++ p.css ++ "\n").toList, ?_, ?_, closed⟩
  · rw [← Except.ok.inj h]
    simp [Page.text, Markup.render]
  · have sheet := Page.sheets_markup plain
    have body := p.markup.markupText_chars (by
      rw [sheet]
      rintro css inside
      rwa [FreeAddMonoid.mem_of.mp inside])
    rwa [sheet] at body

/-- A template that tries to write tags from every place it has a say in. -/
def intrudingTemplate : Template :=
  { theme := "</style>", category := "<script>"
    elements :=
      [{ id := "a", type := "text", content := .str "<script>alert(1)</script>"
         style := [("color", .str "red\"><script>")] },
       { id := "b", type := "<b>", content := .obj [("text", .str "</div><style>")] },
       { id := "c", type := "table", content := .obj
           [("columns", .list [.obj [("label", .str "</th>"), ("width", .str "1\">")]]),
            ("data", .list [.list [.str "</td>"]])] }]
    settings := [("currencySymbol", .str "<"), ("margins", .obj [("top", .str "</style><script>")])]
    branding :=
      [("customCSS", .str "</style><script>alert(2)</script>"), ("fontFamily", .str "</")] }

theorem intrudingTemplate_markupText :
    ∃ html, renderPage intrudingTemplate {} true = .ok html ∧
      ∃ body css, html.toList = "<!DOCTYPE html>\n".toList ++ body ∧ MarkupText body [css] ∧
        ¬ ['<', '/'] <:+: css := by
  obtain ⟨html, h⟩ : Outcome.Succeeds (renderPage intrudingTemplate {} true) := by decide +kernel
  exact ⟨html, h, renderPage_markupText h⟩

end QuotationPress
