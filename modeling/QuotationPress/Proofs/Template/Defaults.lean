import QuotationPress.Proofs.Json.Plain
import QuotationPress.Template.Builder

/-!
# The data that new elements start with

Default contents and styles are made of texts, flags and lists and objects of these
(`madeOf_defaultContent`, `madeOf_defaultStyle`), as is every content but for the cells of its
tables (`Content.madeOf_filled`).
-/

namespace QuotationPress

variable {number : Binary64 → Prop}

namespace Value

@[simp] theorem madeOf_ofText? (s : Option String) : (ofText? s).MadeOf number := by
  cases s with
  | none => exact .null
  | some s => exact .str s

@[simp] theorem madeOf_listed {sp : Spelling} {fs : Fields} :
    (listed sp fs).MadeOf number ↔ ∀ e ∈ fs, e.2.MadeOf number := by
  rw [listed, madeOf_obj, List.forall_mem_map]

theorem itemsWithoutNulls_forall {P : Value → Prop} {xs : List Value}
    (h : ∀ x ∈ xs, P x.withoutNulls) :
    ∀ x ∈ itemsWithoutNulls xs, P x := by
  induction xs with
  | nil => exact nofun
  | cons x rest ih =>
    rw [List.forall_mem_cons] at h
    exact List.forall_mem_cons.mpr ⟨h.1, ih h.2⟩

theorem fieldsWithoutNulls_forall {P : Value → Prop} {fs : Fields}
    (h : ∀ e ∈ fs, P e.2.withoutNulls) :
    ∀ e ∈ fieldsWithoutNulls fs, P e.2 := by
  induction fs with
  | nil => exact nofun
  | cons e rest ih =>
    obtain ⟨key, v⟩ := e
    rw [List.forall_mem_cons] at h
    cases v with
    | null => exact ih h.2
    | _ => exact List.forall_mem_cons.mpr ⟨h.1, ih h.2⟩

/-- What is left without nulls is made of the same numbers. -/
theorem MadeOf.withoutNulls {v : Value} (h : v.MadeOf number) : v.withoutNulls.MadeOf number := by
  induction h with
  | null => exact .null
  | bool b => exact .bool b
  | int i => exact .int i
  | float h => exact .float h
  | str s => exact .str s
  | list _ ih => exact .list (itemsWithoutNulls_forall ih)
  | obj _ ih => exact .obj (fieldsWithoutNulls_forall ih)

end Value

/-- Only the cells of a table can be values of any sort. -/
theorem Content.madeOf_filled {c : Content}
    (cells : ∀ t, c = .table t → ∀ row ∈ t.rows, ∀ v ∈ row, v.MadeOf number) :
      c.filled.MadeOf number := by
  refine Value.MadeOf.withoutNulls ?_
  cases c with
  | table t =>
    have columns : (t.columns.listing .camel).MadeOf number := by
      cases t.columns with
      | listed cs => simp [Columns.listing, Column.listing]
      | flags shown =>
        rw [Columns.listing, Value.madeOf_obj, List.forall_mem_map]
        exact fun e _ => .bool _
    have rows : ∀ row ∈ t.rows, ∀ v ∈ row, v.MadeOf number := cells t rfl
    simpa [Content.listing, columns] using rows
  | info i =>
    have line (l : InfoLine) : (l.listing .camel).MadeOf number := by
      cases l <;> simp [InfoLine.listing]
    simp [Content.listing, line]
  | _ => simp [Content.listing, TotalsLine.listing]

/-- There is no float in a default content. -/
theorem madeOf_defaultContent (k : Option ElementKind) :
    (Value.obj (defaultContent k)).MadeOf number := by
  -- a default table has no rows, so that there are no cells
  have filled {c : Content} (bare : ∀ t, c = .table t → t.rows = []) :
      (Value.obj (c.filled.fields?.getD [])).MadeOf number := by
    refine .obj (Content.madeOf_filled fun t table row hrow => ?_).fields
    rw [bare t table] at hrow
    cases hrow
  cases k with
  | none => exact .obj nofun
  | some k =>
    cases k with
    | header => simp [defaultContent]
    | text => simp [defaultContent]
    | itemsTable => exact filled fun t table => Content.table.inj table ▸ rfl
    | table => exact filled fun t table => Content.table.inj table ▸ rfl
    | companyInfo => exact filled (c := .info .company) nofun
    | clientInfo => exact filled (c := .info .client) nofun
    | quotationInfo => exact filled (c := .info defaultQuotationInfo) nofun
    | totals => exact filled (c := .totals defaultTotals) nofun
    | terms => exact filled (c := .terms {}) nofun
    | signature => exact filled (c := .signature {}) nofun

theorem madeOf_styleEntries (es : List (String × String)) :
    (Value.obj (styleEntries es)).MadeOf number := by
  rw [Value.madeOf_obj, styleEntries, List.forall_mem_map]
  exact fun e _ => .str _

/-- Nor is there one in a default style. -/
theorem madeOf_defaultStyle (k : Option ElementKind) (theme : String) :
    (Value.obj (defaultStyle k theme)).MadeOf number := by
  have plain (p : Palette) : (Value.obj (plainStyle p)).MadeOf number := madeOf_styleEntries _
  have header (p : Palette) : (Value.obj (headerStyle p)).MadeOf number := by
    refine Value.madeOf_overlay (.obj fun e he => ?_) (madeOf_styleEntries _)
    exact Value.madeOf_obj.mp (plain p) e (List.mem_of_mem_filter he)
  unfold defaultStyle
  dsimp only
  split
  · exact header _
  · exact Value.madeOf_overlay (plain _) (madeOf_styleEntries _)
  · exact Value.madeOf_overlay (plain _) (madeOf_styleEntries _)
  · exact Value.madeOf_overlay (plain _) (madeOf_styleEntries _)
  · exact plain _

end QuotationPress
