import QuotationPress.Proofs.Element.Configuration
import QuotationPress.Proofs.Page.ClassMarks
import QuotationPress.Proofs.Page.PageParts
import QuotationPress.Proofs.Page.Rendering
import QuotationPress.Proofs.Page.ViewTotals

/-!
# Rows counted on a page

Every item of the context has one row in each table of items that is shown, and every row of a table
of its own has one; a table of items without items has one row that says so. `renderPage_rows`
counts them in the text of the page, outside its style element.
-/

namespace QuotationPress

open Outcome (ensures_bind ensures_pure ensures_bind_ite)
open Text (occurrences)

/-! ### Rows of an element -/

namespace TemplateElement

/-- The kind and the content of an element, if it is of a known kind and its content fits that. -/
def parsed? (e : TemplateElement) : Option (ElementKind × Content) :=
  e.kind.bind fun kind =>
    (ElementView.contentOf? e kind).toOption.map fun content => (kind, content)

/-- A table of items. -/
def listsItems (e : TemplateElement) : Bool := (e.parsed?.map Prod.fst) == some .itemsTable

/-- How many rows an element has over so many items: a table of items one for each, another table
its own. -/
def rowCount (items : ℕ) (e : TemplateElement) : ℕ :=
  match e.parsed? with
  | some (.itemsTable, _) => items
  | some (.table, .table content) => content.rows.length
  | _ => 0

variable {e : TemplateElement}

/-- An element is parsed exactly if it is of a known kind and its content can be read for that. -/
theorem parsed?_eq_some {kind : ElementKind} {content : Content} :
    e.parsed? = some (kind, content) ↔
      e.kind = some kind ∧ ElementView.contentOf? e kind = .ok content := by
  unfold parsed?
  cases e.kind with
  | none => simp
  | some k =>
    rw [Option.bind_some, Option.map_eq_some_iff]
    constructor
    · rintro ⟨c, read, same⟩
      obtain ⟨rfl, rfl⟩ := Prod.mk.inj same
      cases h : ElementView.contentOf? e k <;> simp_all [Except.toOption]
    · rintro ⟨same, read⟩
      obtain rfl := Option.some.inj same
      exact ⟨content, by rw [read]; rfl, rfl⟩

theorem content_of_parsed? {kind : ElementKind} {content : Content}
    (h : e.parsed? = some (kind, content)) :
    ∃ r, content = kind.content r := by
  obtain ⟨_, r, -, -, same⟩ := Content.parse?_eq_ok.mp (parsed?_eq_some.mp h).2
  exact ⟨r, same.symm⟩

/-- A table of items has a row for each of them. -/
theorem rowCount_of_listsItems (lists : e.listsItems) (items : ℕ) : e.rowCount items = items := by
  unfold listsItems at lists
  unfold rowCount
  cases parsed : e.parsed? with
  | none => simp [parsed] at lists
  | some p =>
    obtain ⟨kind, content⟩ := p
    obtain rfl : kind = .itemsTable := by simpa [parsed] using lists
    rfl

end TemplateElement

/-! ### Rows of a view -/

namespace Merge

variable {l : Lookup}

/-- Items that are read have one row each. -/
theorem length_itemRowsFrom {columns : List Column} {index : ℕ} {items : List Value}
    {rows : List (List String)} (h : itemRowsFrom l columns index items = .ok rows) :
    rows.length = items.length := by
  induction items generalizing index rows with
  | nil =>
    rw [← Except.ok.inj h]
    rfl
  | cons item rest ih =>
    obtain ⟨row, -, h⟩ := Outcome.bind_eq_ok.mp h
    obtain ⟨more, behind, h⟩ := Outcome.bind_eq_ok.mp h
    rw [← Except.ok.inj h, List.length_cons, List.length_cons, ih behind]

/-- The items that are looked up are those of the context. -/
theorem length_contextItems {symbol : String} {c : RenderContext}
    (h : Lookup.of? symbol c = .ok l) :
    (contextItems l).length = c.items.length := by
  have items : Fields.get c.mapping "items" = .list (c.mirrored.items.map Value.obj) := rfl
  have kept : c.mirrored.items = c.items := by
    unfold RenderContext.mirrored
    split_ifs <;> rfl
  rw [contextItems, Lookup.data_of? h, items, kept]
  simp [Value.items?]

theorem length_rows_itemRows {content : TableContent} {body : TableRows}
    (h : itemRows content l = .ok body) :
    body.rows.length = (contextItems l).length := by
  obtain ⟨rows, read, h⟩ := Outcome.bind_eq_ok.mp h
  rw [← Except.ok.inj h]
  exact length_itemRowsFrom read

theorem length_rows_authoredRows {content : TableContent} {body : TableRows}
    (h : authoredRows content l = .ok body) :
    body.rows.length = content.rows.length := by
  obtain ⟨rows, read, h⟩ := Outcome.bind_eq_ok.mp h
  rw [← Except.ok.inj h]
  exact Outcome.length_of_mapM_eq_ok read

end Merge

namespace ElementView

variable {e : TemplateElement} {l : Merge.Lookup} {branding : Fields}

theorem rowless_plainView : (plainView e l).Ensures Rowless :=
  ensures_bind fun _ => ensures_bind fun _ =>
    ensures_pure (by decide : "generic-content" ∈ textClasses)

/-- Only a table has rows. -/
theorem rowless_ofContent {kind : ElementKind} {content : Content}
    (other : ∀ c, content ≠ .table c) :
    (ofContent e kind content l branding).Ensures Rowless := by
  cases content with
  | header c => exact ensures_headerView c fun _ _ _ _ => trivial
  | info c =>
    exact ensures_bind fun _ => ensures_bind fun _ => ensures_bind fun _ => ensures_pure trivial
  | table c => exact absurd rfl (other c)
  | totals c =>
    exact ensures_bind fun _ => ensures_bind fun _ => ensures_bind fun _ => ensures_pure trivial
  | terms c =>
    exact ensures_bind fun _ => ensures_bind fun _ => ensures_bind_ite fun _ =>
      ensures_bind_ite fun _ =>
      ensures_pure (by decide : "terms-content" ∈ textClasses)
  | signature c =>
    exact ensures_bind fun _ => ensures_bind fun _ => ensures_bind_ite fun _ => ensures_pure trivial
  | text c =>
    exact ensures_bind fun _ => ensures_bind fun _ => ensures_bind fun _ =>
      ensures_pure (by decide : "text-content" ∈ textClasses)

/-- The table of an element has a row for each item, or its own; only a table of items says that
there are none. -/
theorem tableView_eq_ok {c : TableContent} {kind : ElementKind} {v : ElementView}
    (h : tableView e c l kind = .ok v) :
    ∃ frame view, v = table frame view ∧
      view.rows.length =
        (if kind = .itemsTable then (Merge.contextItems l).length else c.rows.length) ∧
      (view.emptyMessage = "" ↔ kind ≠ .itemsTable) := by
  unfold tableView at h
  obtain ⟨body, read, h⟩ := Outcome.bind_ite_eq_ok.mp h
  obtain ⟨frame, -, h⟩ := Outcome.bind_eq_ok.mp h
  obtain ⟨title, -, h⟩ := Outcome.bind_eq_ok.mp h
  obtain ⟨columns, -, h⟩ := Outcome.bind_eq_ok.mp h
  refine ⟨frame, _, (Except.ok.inj h).symm, ?_, by simp⟩
  rw [List.length_map]
  simp only [beq_iff_eq] at read
  split_ifs at read ⊢ with items
  · exact Merge.length_rows_itemRows read
  · exact Merge.length_rows_authoredRows read

/-- The view of an element is that of its content if it is parsed, and else a plain block. -/
theorem of_eq_of_parsed? : of e l branding =
    e.parsed?.elim (plainView e l) fun parsed => ofContent e parsed.1 parsed.2 l branding := by
  unfold of TemplateElement.parsed?
  cases e.kind with
  | none => rfl
  | some kind => cases h : contentOf? e kind <;> simp [h, Except.toOption]

/-- An element has a view without rows, or it is a table and has its rows. -/
theorem of_eq_ok {v : ElementView} (h : of e l branding = .ok v) :
    (v.Rowless ∧ (∀ items, e.rowCount items = 0) ∧ e.listsItems = false) ∨
      ∃ frame view, v = table frame view ∧
      view.rows.length = e.rowCount (Merge.contextItems l).length ∧
        (view.emptyMessage = "" ↔ e.listsItems = false) := by
  rw [of_eq_of_parsed?] at h
  unfold TemplateElement.rowCount TemplateElement.listsItems
  cases parsed : e.parsed? with
  | none =>
    rw [parsed, Option.elim_none] at h
    exact .inl ⟨rowless_plainView v h, fun _ => rfl, rfl⟩
  | some p =>
    obtain ⟨kind, content⟩ := p
    obtain ⟨r, rfl⟩ := TemplateElement.content_of_parsed? parsed
    rw [parsed, Option.elim_some] at h
    -- both tables are drawn by one view, and no other kind has rows
    cases kind with
    | itemsTable =>
      have drawn : tableView e r l .itemsTable = .ok v := h
      obtain ⟨frame, view, rfl, rows, message⟩ := tableView_eq_ok drawn
      exact .inr ⟨frame, view, rfl, rows, by simp [message]⟩
    | table =>
      have drawn : tableView e r l .table = .ok v := h
      obtain ⟨frame, view, rfl, rows, message⟩ := tableView_eq_ok drawn
      exact .inr ⟨frame, view, rfl, rows, by simp [message]⟩
    | _ => exact .inl ⟨rowless_ofContent (by simp [ElementKind.content]) v h, fun _ => rfl, rfl⟩

/-! ### Rows in the markup -/

/-- The classes of rows that are counted. -/
def rowClasses : List String := ["data-row", "empty-row"]

open Markup

variable {name : String}

/-- Neither an outer box nor a tag beside the rows has the class of a row. -/
theorem classes_tag_besideRows (row : name ∈ rowClasses) {as : Attributes}
    (beside : BesideRows as) :
    (Measure.classes name).tag as = 0 := by
  have apart : ∀ name ∈ rowClasses, ∀ w ∈ besideClasses, ¬ name.toList <+: w.toList := by decide
  -- the first two letters tell a row from a box
  have short : ∀ name ∈ rowClasses,
      ¬ name.toList.take 2 <+: "element ".toList ∧
        (name.toList.take 2).length ≤ "element ".toList.length := by
    decide
  refine classes_tag_of_none fun a inside marks => ?_
  obtain known | box := beside a inside marks.1
  · exact apart name row a.2 known marks.2
  · obtain ⟨other, within⟩ := short name row
    exact other (List.prefix_of_prefix_length_le ((List.take_prefix 2 _).trans marks.2) box within)

/-- A row of data has the class of one and no class of an empty row. -/
theorem classes_dataRow (row : name ∈ rowClasses) (alternate : Bool) (number : ℕ)
    (cells : List Cell) :
    (dataRow alternate number cells).total (.classes name) =
      if name = "data-row" then 1 else 0 := by
  have starts : ∀ name ∈ rowClasses, ∀ tail ∈ [" alternate-row", ""],
      (Marks name (.classes, "data-row" ++ tail) ↔ name = "data-row") := by decide
  rw [total_dataRow (classes_tag_besideRows row), classes_tag_classed]
  refine if_congr (starts name row _ ?_) rfl rfl
  split_ifs <;> simp

/-- So rows of data are counted by their number. -/
theorem classes_dataRows (row : name ∈ rowClasses) (alternate : Bool) (number : ℕ)
    (rows : List (List Cell)) :
    totalAll (.classes name) (dataRows alternate number rows) = if name = "data-row"
      then rows.length else 0 := by
  induction rows generalizing number with
  | nil => simp [dataRows]
  | cons cells rest ih =>
    simp only [dataRows, totalAll_cons, total_newline, classes_dataRow row, ih, Nat.zero_add]
    split_ifs
    · rw [List.length_cons, Nat.add_comm]
    · rfl

/-- A table has its rows of data, or the row that says that there are none. -/
theorem classes_bodyRows (row : name ∈ rowClasses) (v : TableView) :
    totalAll (.classes name) (bodyRows v) =
      if name = "data-row" then v.rows.length
      else if v.rows = [] ∧ v.emptyMessage ≠ "" then 1 else 0 := by
  have starts : ∀ name ∈ rowClasses, (Marks name (.classes, "empty-row") ↔
      ¬ name = "data-row") := by
    decide
  have spanning (w : String) : (Measure.classes name).tag [(.colspan, w)] = 0 :=
    classes_tag_of_none fun a inside marks => by
      obtain rfl := List.mem_singleton.mp inside
      exact Attribute.noConfusion marks.1
  unfold bodyRows
  split
  · next none =>
    obtain none := List.isEmpty_iff.mp none
    by_cases silent : v.emptyMessage = ""
    · simp [emptyRow, silent, none]
    · simp [emptyRow, silent, none, classes_tag_classed, starts name row, spanning]
  · next given =>
    have given : v.rows ≠ [] := by simpa using given
    simp [classes_dataRows row, given]

/-- The rows of an element, in the markup of its view. -/
theorem classes_of (row : name ∈ rowClasses) {v : ElementView} (h : of e l branding = .ok v)
    {m : Markup} (drawn : v.markup = .ok m) : m.total (.classes name) =
      if name = "data-row" then e.rowCount (Merge.contextItems l).length
      else if e.listsItems ∧ Merge.contextItems l = [] then 1 else 0 := by
  obtain ⟨rowless, none, unlisted⟩ | ⟨frame, view, rfl, rows, message⟩ := of_eq_ok h
  · rw [total_markup_of_rowless (classes_tag_besideRows row) rowless drawn]
    simp [none, unlisted]
  · rw [total_markup_table (classes_tag_besideRows row) drawn, classes_bodyRows row, rows]
    refine if_congr Iff.rfl rfl (if_congr ?_ rfl rfl)
    cases lists : e.listsItems with
    | true =>
      have spoken : view.emptyMessage ≠ "" := fun silent => by simp [message.mp silent] at lists
      rw [TemplateElement.rowCount_of_listsItems lists] at rows
      simp [spoken, ← List.length_eq_zero_iff, rows]
    | false => simp [message.mpr lists]

end ElementView

/-! ### Rows on a page -/

open ElementView (rowClasses)

/-- Outside the style element, the rows of a page are those of its elements. -/
theorem Page.occurrences_outsideStyle {name : String} (row : name ∈ rowClasses) {p : Page}
    (closed : Markup.Sealed ("\n" ++ p.css ++ "\n")) :
    occurrences (classMark name) (outsideStyle p.text.toList) =
      (p.elements.map (Markup.total (.classes name))).sum := by
  have isName : ∀ name ∈ rowClasses, IsClassName name := by decide
  have front : ∀ name ∈ rowClasses, occurrences (classMark name) titleStart = 0 := by decide +kernel
  have parted (a b : List Char) : occurrences (classMark name) (a ++ '\n' :: b) =
      occurrences (classMark name) a + occurrences (classMark name) b :=
    Text.occurrences_append_cons ((isName name row).not_mem_classMark (by decide) (by decide))
      (isName name row).classMark_ne_nil
  have number : '"' ∉ Text.escapeChars ("Quotation " ++ p.number).toList :=
    fun inside => (Text.plain_of_mem_escapeChars inside).2 rfl
  -- in front of the style element stand fixed tags and the number, which is escaped
  have before : occurrences (classMark name) p.beforeStyle = 0 := by
    have title : '"' ∉ Text.escapeChars ("Quotation " ++ p.number).toList ++
        '<' :: "/title>\n".toList :=
      List.not_mem_append number (by decide)
    rw [beforeStyle,
      Text.occurrences_append_cons ((isName name row).not_mem_classMark (by decide) (by decide))
      (isName name row).classMark_ne_nil, front name row, occurrences_of_unquoted title]
  have body : p.bodyMarkup.total (.classes name) =
      (p.elements.map (Markup.total (.classes name))).sum := by
    have beside {w : String} (known : w ∈ ElementView.besideClasses) :
        (Markup.Measure.classes name).tag [(.classes, w)] = 0 :=
      ElementView.classes_tag_besideRows row (ElementView.besideRows_classes known)
    have shown : (if p.preview then "preview" else "document") ∈ ElementView.besideClasses := by
      cases p.preview <;> decide
    simp (disch := decide) [bodyMarkup, beside shown, beside, Markup.totalAll_flatMap]
  have head : occurrences (classMark name) "</head>".toList = 0 :=
    occurrences_of_unquoted (by decide) name
  have foot : occurrences (classMark name) (Markup.endTag "html") = 0 :=
    occurrences_of_unquoted (by decide) name
  have behind : p.behindStyle =
      '\n' :: ("</head>".toList ++ '\n' :: (p.bodyMarkup.chars ++ '\n' :: Markup.endTag "html")) :=
        rfl
  rw [outsideStyle_text closed, behind, parted, parted, parted, before, head, foot,
    Markup.occurrences_chars (isName name row), body]
  simp only [Nat.zero_add, Nat.add_zero]

theorem sum_map_ite_eq_countP {α : Type} (p : α → Bool) (xs : List α) :
    (xs.map fun x => if p x then 1 else 0).sum = xs.countP p := by
  induction xs with
  | nil => rfl
  | cons x rest ih => rw [List.map_cons, List.sum_cons, ih, List.countP_cons, Nat.add_comm]

/-- One row for each item in each table of items and one for each row of another table, and in the
tables of items one row in place of no items. -/
theorem renderPage_rows {t : Template} {c : RenderContext} {preview : Bool} {html : String}
    (h : renderPage t c preview = .ok html) :
    occurrences (classMark "data-row") (outsideStyle html.toList) =
        ((t.elements.filter TemplateElement.visible).map
          (TemplateElement.rowCount c.items.length)).sum ∧
      occurrences (classMark "empty-row") (outsideStyle html.toList) =
        if c.items = []
          then (t.elements.filter TemplateElement.visible).countP TemplateElement.listsItems
            else 0 := by
  obtain ⟨p, page, h⟩ := Outcome.bind_eq_ok.mp h
  obtain ⟨-, closed⟩ := pageOf_eq_ok page
  obtain ⟨-, symbol, l, views, known, shown, drawn⟩ := pageOf_parts page
  obtain rfl := Except.ok.inj h
  have items := Merge.length_contextItems known
  have none : Merge.contextItems l = [] ↔ c.items = [] := by
    rw [← List.length_eq_zero_iff, items, List.length_eq_zero_iff]
  -- both classes at once, element by element
  have each {name : String} (row : name ∈ rowClasses) :
      occurrences (classMark name) (outsideStyle p.text.toList) =
        ((t.elements.filter TemplateElement.visible).map fun e => if name = "data-row"
          then e.rowCount c.items.length
          else if e.listsItems ∧ c.items = [] then 1 else 0).sum := by
    rw [Page.occurrences_outsideStyle row closed]
    refine congrArg List.sum
      (Outcome.map_eq_map_of_mapM_eq_ok (Outcome.mapM_bind_eq_ok shown drawn) ?_)
    intro e _ m both
    obtain ⟨v, view, markup⟩ := Outcome.bind_eq_ok.mp both
    rw [ElementView.classes_of row view markup, items]
    simp only [none]
  refine ⟨(each (by decide)).trans ?_, (each (by decide)).trans ?_⟩
  · simp only [if_true]
  · by_cases empty : c.items = []
    · simp [empty, sum_map_ite_eq_countP]
    · simp [empty]

/-- Tables of all sorts: one of items and one of its own, one that is hidden and one that cannot be
read, with texts that look like rows. -/
def mixedTables : Template :=
  { elements :=
      [{ id := "a", type := "items_table", content := .str "class=\"data-row\"" },
       { id := "b", type := " Table "
         content := .obj [("rows", .list [.list [.str "class=\"empty-row\""], .list []])] },
       { id := "c", type := "items_table", visible := false },
       { id := "d", type := "items_table", content := .int 5 }]
    branding := [("customCSS", .str "<style>class=\"data-row\"</style>")] }

theorem mixedTables_rows :
    (∃ html, renderPage mixedTables { items := [[("name", .str "class=\"data-row\"")], []] } false =
      .ok html ∧
      occurrences (classMark "data-row") (outsideStyle html.toList) = 4 ∧
      occurrences (classMark "empty-row") (outsideStyle html.toList) = 0) ∧
    ∃ html, renderPage mixedTables {} true = .ok html ∧
      occurrences (classMark "data-row") (outsideStyle html.toList) = 2 ∧
      occurrences (classMark "empty-row") (outsideStyle html.toList) = 1 := by
  constructor
  · obtain ⟨html, h⟩ : Outcome.Succeeds
        (renderPage mixedTables
          { items := [[("name", .str "class=\"data-row\"")], []] } false) := by
          decide +kernel
    obtain ⟨data, none⟩ := renderPage_rows h
    exact ⟨html, h, data.trans (by decide +kernel), none.trans (by decide +kernel)⟩
  · obtain ⟨html, h⟩ : Outcome.Succeeds (renderPage mixedTables {} true) := by decide +kernel
    obtain ⟨data, none⟩ := renderPage_rows h
    exact ⟨html, h, data.trans (by decide +kernel), none.trans (by decide +kernel)⟩

end QuotationPress
