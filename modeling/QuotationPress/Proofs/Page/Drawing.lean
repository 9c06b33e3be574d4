import QuotationPress.Page.Document
import QuotationPress.Proofs.Json.Records
import QuotationPress.Proofs.Merge.Rows

/-!
# When an element can be drawn

`TemplateElement.Drawable` says what has to be told of the data of a document for it: every
placeholder in a text that is shown, the amounts and numbers in the cells of a table, and the
conditions of the totals. `ElementView.succeeds_of_iff` says that nothing else counts.
-/

namespace QuotationPress

open Outcome (Succeeds)
open Merge (Lookup HasRow itemColumns)

/-- The cells of a table that an element holds are of the kinds that JSON has. -/
theorem ElementView.isJson_rows {e : TemplateElement} (json : e.IsJson) {kind : ElementKind}
    {c : TableContent} (h : contentOf? e kind = .ok (.table c)) :
    ∀ row ∈ c.rows, ∀ v ∈ row, v.IsJson := by
  have config : (Value.obj (if kind.isTable then e.config.getD [] else [])).IsJson := by
    split
    · cases given : e.config with
      | none => exact Value.isJson_nil
      | some fs => exact json.config fs given
    · exact Value.isJson_nil
  obtain ⟨fs, entries, read⟩ := Content.isJson_of_parse? json.content config h
  -- both tables are read by one reader, and no other kind has a table
  have table (read : Content.table <$> TableContent.ofFields fs = .good (.table c)) :
      ∀ row ∈ c.rows, ∀ v ∈ row, v.IsJson := by
    obtain ⟨_, good, same⟩ := Checked.map_eq_good.mp read
    exact Content.isJson_rows entries (Content.table.inj same ▸ good)
  cases kind with
  | itemsTable => exact table read
  | table => exact table read
  | _ =>
    obtain ⟨_, -, other⟩ := Checked.map_eq_good.mp read
    cases other

/-! ### What is told of the data -/

namespace Content

/-- The texts of a line of a section. -/
def lineTexts : InfoLine → List String
  | .field f => f.label.toList ++ [f.value]
  | .text s => [s]

/-- A line of the totals can be drawn: whether it is shown can be told, and if so, its texts are
filled in. -/
def TotalsDrawable (l : Lookup) (line : TotalsLine) : Prop :=
  l.Tells line.showIf ∧
    (Merge.isShown l (some line.showIf) = .ok true → l.Fills line.label ∧ l.Fills line.value)

/-- The rows of a table can be drawn, be they for the items of the document or its own. -/
def RowsDrawable (l : Lookup) (kind : ElementKind) (c : TableContent) : Prop :=
  if kind = .itemsTable then
    (∀ index item, l.items[index]? = some item →
      HasRow item index ∧ ∀ column ∈ itemColumns c.columns, l.HasCell item index column) ∧
    ∀ column ∈ itemColumns c.columns, l.Fills column.label
  else
    (∀ row ∈ c.rows, ∀ s, .str s ∈ row → l.Fills s) ∧
    ∀ columns, c.columns = .listed columns → ∀ column ∈ columns, l.Fills column.label

/-- All that a content shows can be told. -/
def Drawable (l : Lookup) (kind : ElementKind) : Content → Prop
  | .header c => l.Fills c.title ∧ ∀ s ∈ c.subtitle, l.Fills s
  | .info c => (∀ s ∈ c.title, l.Fills s) ∧ ∀ line ∈ c.fields, ∀ s ∈ lineTexts line, l.Fills s
  | .table c => (∀ s ∈ c.title, l.Fills s) ∧ RowsDrawable l kind c
  | .totals c => (∀ s ∈ c.title, l.Fills s) ∧ ∀ line ∈ c.fields, TotalsDrawable l line
  | .terms c =>
    l.Fills c.text ∧
      (∀ own, l.mergeText c.text = .ok own → Text.strip own = "" → l.Fills c.defaultText) ∧
      (c.showTitle = true → l.Fills c.title)
  | .signature c => l.Fills c.title ∧ (c.showName = true → l.Fills c.name)
  | .text c => (∀ s ∈ c.title, l.Fills s) ∧ l.Fills c.text

end Content

/-- The texts that a plain block shows of a content. -/
def plainTexts : Value → List String
  | .str s => [s]
  | .list xs => ElementView.textsIn xs
  | .tuple xs => ElementView.textsIn xs
  | .obj fs => (ElementView.textKeys.findSome? fun key => (Fields.get fs key).text?).toList
  | _ => []

/-- All that an element shows can be told. An element of an unknown kind, or with a content that
does not fit its kind, is a plain block. -/
@[irreducible] -- the kind of an element is not to be evaluated where only `succeeds_of_iff` counts
def TemplateElement.Drawable (l : Lookup) (e : TemplateElement) : Prop :=
  match e.kind with
  | none => ∀ s ∈ plainTexts e.content, l.Fills s
  | some kind =>
    match ElementView.contentOf? e kind with
    | .ok content => content.Drawable l kind
    | .error _ => ∀ s ∈ plainTexts e.content, l.Fills s

namespace ElementView

variable {l : Lookup} {e : TemplateElement}

/-- Values that JSON has can all be written into a style. -/
theorem succeeds_declarations {style : Fields} (json : ∀ e ∈ style, e.2.IsJson) :
    Succeeds (InlineStyle.declarations style) := by
  induction style with
  | nil => exact Outcome.succeeds_ok
  | cons entry rest ih =>
    rw [List.forall_mem_cons] at json
    rw [InlineStyle.declarations]
    split
    · obtain ⟨text, written⟩ := json.1.succeeds_text
      obtain ⟨more, hmore⟩ := ih json.2
      exact ⟨_, by rw [written, hmore]; rfl⟩
    · exact ih json.2

/-- The box of an element can always be drawn. -/
theorem succeeds_frameOf (json : e.IsJson) (kind : String) (classes : List String) :
    Succeeds (frameOf e kind classes) := by
  cases json.style with
  | obj distinct values =>
    have style : Succeeds (inlineStyle e.style) :=
      Outcome.succeeds_map.mpr (succeeds_declarations values)
    exact Outcome.succeeds_map.mpr style

/-! ### Views of one kind -/

section

variable (data : (Value.obj l.data).IsJson)
include data

/-- The lines of a section can be shown exactly if each of their texts is filled in. -/
theorem succeeds_infoLines_iff (lines : List InfoLine) :
    Succeeds (infoLines l lines) ↔ ∀ line ∈ lines, ∀ s ∈ Content.lineTexts line, l.Fills s := by
  induction lines with
  | nil => exact iff_of_true Outcome.succeeds_ok nofun
  | cons line rest ih =>
    rw [List.forall_mem_cons, ← ih]
    -- a field has a label and a value, a line of text only itself
    cases line with
    | field f =>
      have texts : (∀ s ∈ Content.lineTexts (.field f), l.Fills s) ↔
          (∀ s ∈ f.label, l.Fills s) ∧ l.Fills f.value := by
        simp [Content.lineTexts, or_imp, forall_and]
      rw [texts, ← Lookup.succeeds_mergeText?_iff data, ← Lookup.succeeds_mergeText_iff data,
        and_assoc]
      exact Outcome.succeeds_bind_iff_and fun _ _ => Outcome.succeeds_bind_iff_and fun _ _ =>
        Outcome.succeeds_bind_iff_left fun _ => Outcome.succeeds_pure
    | text s =>
      have texts : (∀ t ∈ Content.lineTexts (.text s), l.Fills t) ↔ l.Fills s :=
        List.forall_mem_singleton
      rw [texts, ← Lookup.succeeds_mergeText_iff data]
      exact Outcome.succeeds_bind_iff_and fun _ _ =>
        Outcome.succeeds_bind_iff_left fun _ => Outcome.succeeds_pure

/-- A line that is not shown need not be filled in. -/
theorem succeeds_totalsRows_iff (lines : List TotalsLine) :
    Succeeds (totalsRows l lines) ↔ ∀ line ∈ lines, Content.TotalsDrawable l line := by
  induction lines with
  | nil => exact iff_of_true Outcome.succeeds_ok nofun
  | cons line rest ih =>
    rw [List.forall_mem_cons, ← ih, Content.TotalsDrawable, ← Merge.succeeds_isShown_iff data,
      and_assoc, totalsRows, Outcome.succeeds_bind_iff_forall]
    refine and_congr_right fun ⟨shown, told⟩ => ?_
    simp only [told, Except.ok.injEq, forall_eq']
    -- the texts count only if the line is shown
    cases shown with
    | true =>
      simp only [↓reduceIte, forall_const, ← Lookup.succeeds_mergeText_iff data, and_assoc]
      exact Outcome.succeeds_bind_iff_and fun _ _ => Outcome.succeeds_bind_iff_and fun _ _ =>
        Outcome.succeeds_bind_iff_left fun _ => Outcome.succeeds_pure
    | false => simp

/-- Number and date of the quotation can be told, so that only title and subtitle of a header
count. -/
theorem succeeds_headerView_iff (json : e.IsJson) (c : HeaderContent) (branding : Fields)
    (number : Succeeds (l.resolve "quotation.number"))
    (date : Succeeds (l.resolve "quotation.date")) :
    Succeeds (headerView e c l branding) ↔ l.Fills c.title ∧ ∀ s ∈ c.subtitle, l.Fills s := by
  rw [headerView, ← Lookup.succeeds_mergeText_iff data, ← Lookup.succeeds_mergeText?_iff data]
  refine Outcome.succeeds_bind_iff_right (succeeds_frameOf json _ _) fun frame _ => ?_
  -- title and subtitle come last, whatever details the header has
  have texts (details : List (String × String)) :
      Succeeds (do
        let title ← l.mergeText c.title
        let subtitle ← l.mergeText? c.subtitle
        return header frame title subtitle details ((branding.get "logoUrl").orElse (.str ""))) ↔
      Succeeds (l.mergeText c.title) ∧ Succeeds (l.mergeText? c.subtitle) :=
    Outcome.succeeds_bind_iff_and fun _ _ => Outcome.succeeds_bind_iff_left fun _ =>
      Outcome.succeeds_pure
  simp only [pure_bind]
  split
  · refine Outcome.succeeds_bind_iff_right number fun _ _ => ?_
    split
    · exact Outcome.succeeds_bind_iff_right date fun _ _ => texts _
    · exact texts _
  · split
    · exact Outcome.succeeds_bind_iff_right date fun _ _ => texts _
    · exact texts _

theorem succeeds_infoView_iff (json : e.IsJson) (c : InfoContent) (kind : ElementKind) :
    Succeeds (infoView e c l kind) ↔
      (∀ s ∈ c.title, l.Fills s) ∧ ∀ line ∈ c.fields, ∀ s ∈ Content.lineTexts line, l.Fills s := by
  rw [← Lookup.succeeds_mergeText?_iff data, ← succeeds_infoLines_iff data, and_comm]
  refine Outcome.succeeds_bind_iff_right (succeeds_frameOf json _ _) fun _ _ => ?_
  exact Outcome.succeeds_bind_iff_and fun _ _ =>
    Outcome.succeeds_bind_iff_left fun _ => Outcome.succeeds_pure

theorem succeeds_headerColumn_iff (c : Column) : Succeeds (headerColumn l c) ↔ l.Fills c.label := by
  rw [← Lookup.succeeds_mergeText_iff data]
  exact Outcome.succeeds_bind_iff_left fun _ => Outcome.succeeds_pure

/-- A table can be shown exactly if its title and its rows can. -/
theorem succeeds_tableView_iff (json : e.IsJson) {c : TableContent}
    (cells : ∀ row ∈ c.rows, ∀ v ∈ row, v.IsJson) (kind : ElementKind) :
    Succeeds (tableView e c l kind) ↔
      (∀ s ∈ c.title, l.Fills s) ∧ Content.RowsDrawable l kind c := by
  -- title and columns, once the rows are there
  have heads (columns : List Column) (view : Frame → String → List HeaderColumn → ElementView) :
      Succeeds (do
        let frame ← frameOf e kind.tag []
        let title ← l.mergeText? c.title
        let columns ← columns.mapM (headerColumn l)
        return view frame title columns) ↔
      (∀ s ∈ c.title, l.Fills s) ∧ ∀ column ∈ columns, l.Fills column.label := by
    simp only [← succeeds_headerColumn_iff data, ← Outcome.succeeds_mapM]
    rw [← Lookup.succeeds_mergeText?_iff data]
    refine Outcome.succeeds_bind_iff_right (succeeds_frameOf json _ _) fun _ _ => ?_
    exact Outcome.succeeds_bind_iff_and fun _ _ =>
      Outcome.succeeds_bind_iff_left fun _ => Outcome.succeeds_pure
  unfold tableView Content.RowsDrawable
  dsimp only
  split
  · next items =>
    rw [if_pos (eq_of_beq items), ← Merge.succeeds_itemRows_iff data, and_left_comm]
    refine Outcome.succeeds_bind_iff_and fun body written => ?_
    rw [heads, Merge.columns_itemRows written]
  · next own =>
    rw [if_neg (ne_of_beq_false (Bool.eq_false_iff.mpr own)),
      ← Merge.succeeds_authoredRows_iff data cells, and_left_comm]
    refine Outcome.succeeds_bind_iff_and fun body written => ?_
    rw [heads, Merge.fills_authoredRows_iff written]

theorem succeeds_totalsView_iff (json : e.IsJson) (c : TotalsContent) :
    Succeeds (totalsView e c l) ↔
      (∀ s ∈ c.title, l.Fills s) ∧ ∀ line ∈ c.fields, Content.TotalsDrawable l line := by
  rw [← Lookup.succeeds_mergeText?_iff data, ← succeeds_totalsRows_iff data]
  refine Outcome.succeeds_bind_iff_right (succeeds_frameOf json _ _) fun _ _ => ?_
  exact Outcome.succeeds_bind_iff_and fun _ _ =>
    Outcome.succeeds_bind_iff_left fun _ => Outcome.succeeds_pure

theorem succeeds_textView_iff (json : e.IsJson) (c : TextContent) :
    Succeeds (textView e c l) ↔ (∀ s ∈ c.title, l.Fills s) ∧ l.Fills c.text := by
  rw [← Lookup.succeeds_mergeText?_iff data, ← Lookup.succeeds_mergeText_iff data]
  refine Outcome.succeeds_bind_iff_right (succeeds_frameOf json _ _) fun _ _ => ?_
  exact Outcome.succeeds_bind_iff_and fun _ _ =>
    Outcome.succeeds_bind_iff_left fun _ => Outcome.succeeds_pure

/-- The default terms have to be filled in only where the own ones come out blank. -/
theorem succeeds_termsView_iff (json : e.IsJson) (c : TermsContent) :
    Succeeds (termsView e c l) ↔ l.Fills c.text ∧
      (∀ own, l.mergeText c.text = .ok own → Text.strip own = "" → l.Fills c.defaultText) ∧
      (c.showTitle = true → l.Fills c.title) := by
  rw [← Lookup.succeeds_mergeText_iff data]
  refine Outcome.succeeds_bind_iff_right (succeeds_frameOf json _ _) fun _ _ => ?_
  rw [Outcome.succeeds_bind_iff_forall]
  refine and_congr_right fun ⟨own, told⟩ => ?_
  simp only [told, Except.ok.injEq, forall_eq', ← Lookup.succeeds_mergeText_iff data]
  refine Outcome.succeeds_bind_iff_of_ite Outcome.succeeds_pure fun text => ?_
  refine (Outcome.succeeds_bind_iff_of_ite Outcome.succeeds_pure fun title =>
    ?_).trans (and_iff_left trivial)
  exact iff_true_intro Outcome.succeeds_pure

theorem succeeds_signatureView_iff (json : e.IsJson) (c : SignatureContent) :
    Succeeds (signatureView e c l) ↔ l.Fills c.title ∧ (c.showName = true → l.Fills c.name) := by
  rw [← Lookup.succeeds_mergeText_iff data, ← Lookup.succeeds_mergeText_iff data]
  refine Outcome.succeeds_bind_iff_right (succeeds_frameOf json _ _) fun _ _ => ?_
  refine Outcome.succeeds_bind_iff_and fun _ _ => ?_
  refine (Outcome.succeeds_bind_iff_of_ite Outcome.succeeds_pure fun name =>
    ?_).trans (and_iff_left trivial)
  exact iff_true_intro Outcome.succeeds_pure

/-- A plain block of any value can be shown if the texts that it shows of it are filled in. -/
theorem succeeds_plainText_iff {v : Value} (json : v.IsJson) :
    Succeeds (plainText l v) ↔ ∀ s ∈ plainTexts v, l.Fills s := by
  have each (xs : List String) :
      Succeeds (return Value.joinedBy " " (← xs.mapM l.mergeText)) ↔ ∀ s ∈ xs, l.Fills s := by
    rw [Outcome.succeeds_bind_iff_left fun _ => Outcome.succeeds_pure, Outcome.succeeds_mapM]
    simp only [Lookup.succeeds_mergeText_iff data]
  cases json with
  | obj distinct values =>
    rw [plainText, plainTexts]
    split
    · next s found => simp [found, Lookup.succeeds_mergeText_iff data]
    · next none => exact iff_of_true Outcome.succeeds_ok (by simp [none])
  | list items => exact each _
  | str s => exact (Lookup.succeeds_mergeText_iff data s).trans (by simp [plainTexts])
  | null => exact iff_of_true (Format.succeeds_plain .null) nofun
  | bool b => exact iff_of_true (Format.succeeds_plain (.bool b)) nofun
  | int short => exact iff_of_true (Format.succeeds_plain (.int short)) nofun
  | float one => exact iff_of_true (Format.succeeds_plain (.float one)) nofun

end

/-- An element can be shown exactly if all that it shows can be told. -/
theorem succeeds_of_iff (data : (Value.obj l.data).IsJson) (json : e.IsJson) (branding : Fields)
    (number : Succeeds (l.resolve "quotation.number"))
    (date : Succeeds (l.resolve "quotation.date")) :
    Succeeds (of e l branding) ↔ e.Drawable l := by
  -- an unknown kind and a misfit are both plain blocks
  have plain : Succeeds (plainView e l) ↔ ∀ s ∈ plainTexts e.content, l.Fills s := by
    rw [← succeeds_plainText_iff data json.content]
    exact Outcome.succeeds_bind_iff_right (succeeds_frameOf json _ _) fun _ _ =>
      Outcome.succeeds_bind_iff_left fun _ => Outcome.succeeds_pure
  unfold of TemplateElement.Drawable
  cases e.kind with
  | none => exact plain
  | some kind =>
    dsimp only
    cases found : contentOf? e kind with
    | error misfit => exact plain
    | ok content =>
      cases content with
      | header c => exact succeeds_headerView_iff data json c branding number date
      | info c => exact succeeds_infoView_iff data json c kind
      | table c => exact succeeds_tableView_iff data json (isJson_rows json found) kind
      | totals c => exact succeeds_totalsView_iff data json c
      | terms c => exact succeeds_termsView_iff data json c
      | signature c => exact succeeds_signatureView_iff data json c
      | text c => exact succeeds_textView_iff data json c

end ElementView

end QuotationPress
