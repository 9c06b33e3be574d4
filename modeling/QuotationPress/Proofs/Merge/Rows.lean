import QuotationPress.Merge.Tables
import QuotationPress.Proofs.Merge.Filling

/-!
# When the rows of a table can be written

`succeeds_itemRows_iff` is about the rows for the items of a document, `succeeds_authoredRows_iff`
about the rows that a table itself holds.
-/

namespace QuotationPress.Merge

open Outcome (Succeeds)
open Format (Oversized Overlong)

variable {l : Lookup}

/-! ### Rows for items -/

/-- The cell of a column can be written for an item: its own text is filled in, or the value under
its key is not too large for its format. -/
def Lookup.HasCell (l : Lookup) (item : Fields) (index : ℕ) (c : Column) : Prop :=
  match nonempty? c.value with
  | some t => l.FillsInRow item t
  | none =>
    let v := cellValue item index c.key
    (cellFormat c v = some "currency" → ¬ Oversized v) ∧
      (cellFormat c v = some "number" → ¬ Overlong v)

/-- The number that stands for a missing one is short, for the item has a row. -/
theorem isJson_cellValue {item : Fields} (json : (Value.obj item).IsJson) {index : ℕ}
    (row : HasRow item index) (key : String) : (cellValue item index key).IsJson := by
  unfold cellValue
  dsimp only
  split
  · next missing =>
    simp only [Bool.and_eq_true, beq_iff_eq] at missing
    obtain ⟨null, rfl⟩ := missing
    have short := row.number (by rw [Value.eq_null_of_isNull null]; rfl)
    exact .int (by rwa [show (index + 1 : Int).natAbs = index + 1 by omega])
  · exact json.get key

/-- A cell can be written exactly if its own text is filled in, or its value has a text. -/
theorem succeeds_itemCell_iff (json : (Value.obj l.data).IsJson) {item : Fields}
    (given : (Value.obj item).IsJson) {index : ℕ} (row : HasRow item index) {r : RowLookup}
    (h : l.forRow item index = .ok r) (c : Column) :
    Succeeds (itemCell r index c) ↔ l.HasCell item index c := by
  obtain ⟨texts, written, h⟩ := Outcome.bind_eq_ok.mp h
  obtain rfl := Except.ok.inj h
  unfold itemCell Lookup.HasCell
  cases nonempty? c.value with
  | some t =>
    rw [Outcome.succeeds_bind_iff_left fun _ => Outcome.succeeds_pure]
    exact RowLookup.succeeds_mergeText_iff json given (rowValues_words written) t
  | none =>
    rw [Outcome.succeeds_bind_iff_left fun _ => Outcome.succeeds_pure]
    exact Format.succeeds_cell_iff (isJson_cellValue given row c.key) l.symbol _

/-- A row can be written exactly if there is one for the item and each of its cells can be
written. -/
theorem succeeds_itemRow_iff (json : (Value.obj l.data).IsJson) {item : Fields}
    (given : (Value.obj item).IsJson) (columns : List Column) (index : ℕ) :
    Succeeds (itemRow l columns index item) ↔
      HasRow item index ∧ ∀ c ∈ columns, l.HasCell item index c := by
  have forRow : Succeeds (l.forRow item index) ↔ HasRow item index :=
    Outcome.succeeds_map.trans (succeeds_rowValues_iff given l.symbol index)
  rw [itemRow, Outcome.succeeds_bind_iff_forall, forRow]
  refine and_congr_right fun row => ?_
  obtain ⟨r, hr⟩ := forRow.mpr row
  simp only [hr, Except.ok.injEq, forall_eq', Outcome.succeeds_mapM,
    succeeds_itemCell_iff json given row hr]

/-- A value as an item: anything but an object has no entries. -/
def asItem (v : Value) : Fields := (v.fields?).getD []

theorem isJson_asItem {v : Value} (json : v.IsJson) : (Value.obj (asItem v)).IsJson := json.fields

theorem forall_getElem?_cons {α : Type} {a : α} {as : List α} {P : ℕ → α → Prop} :
    (∀ i x, (a :: as)[i]? = some x → P i x) ↔ P 0 a ∧ ∀ i x, as[i]? = some x → P (i + 1) x := by
  refine ⟨fun h => ⟨h 0 a rfl, fun i x hx => h (i + 1) x hx⟩, fun ⟨first, more⟩ i x hx => ?_⟩
  cases i with
  | zero => exact Option.some.inj hx ▸ first
  | succ i => exact more i x hx

/-- Rows can be written exactly if each of them can, at its position. -/
theorem succeeds_itemRowsFrom_iff (json : (Value.obj l.data).IsJson) (columns : List Column)
    {xs : List Value} (given : ∀ x ∈ xs, x.IsJson) (start : ℕ) :
    Succeeds (itemRowsFrom l columns start xs) ↔ ∀ i item, (xs.map asItem)[i]? = some item →
      HasRow item (start + i) ∧ ∀ c ∈ columns, l.HasCell item (start + i) c := by
  induction xs generalizing start with
  | nil => exact iff_of_true Outcome.succeeds_ok (by simp)
  | cons x rest ih =>
    rw [List.forall_mem_cons] at given
    have behind : (∀ i item, (rest.map asItem)[i]? = some item → HasRow item (start + (i + 1)) ∧
        ∀ c ∈ columns, l.HasCell item (start + (i + 1)) c) ↔
        Succeeds (itemRowsFrom l columns (start + 1) rest) := by
      rw [ih given.2]
      exact forall₂_congr fun i item => by rw [Nat.add_right_comm, Nat.add_assoc]
    rw [List.map_cons, forall_getElem?_cons, behind, Nat.add_zero,
      ← succeeds_itemRow_iff json (isJson_asItem given.1)]
    exact Outcome.succeeds_bind_iff_and fun row _ =>
      Outcome.succeeds_bind_iff_left fun _ => Outcome.succeeds_pure

/-- The items of a document. -/
def Lookup.items (l : Lookup) : List Fields := (contextItems l).map asItem

theorem isJson_contextItems (json : (Value.obj l.data).IsJson) :
    ∀ x ∈ contextItems l, x.IsJson := by
  have kind := json.get "items"
  unfold contextItems
  generalize l.data.get "items" = v at kind
  cases kind with
  | list items => exact items
  | _ => exact nofun

theorem succeeds_itemRows_iff (json : (Value.obj l.data).IsJson) (content : TableContent) :
    Succeeds (itemRows content l) ↔ ∀ index item, l.items[index]? = some item →
      HasRow item index ∧ ∀ c ∈ itemColumns content.columns, l.HasCell item index c := by
  rw [itemRows, Outcome.succeeds_bind_iff_left fun _ => Outcome.succeeds_pure,
    succeeds_itemRowsFrom_iff json _ (isJson_contextItems json)]
  simp only [Nat.zero_add, Lookup.items]

theorem columns_itemRows {content : TableContent} {body : TableRows}
    (h : itemRows content l = .ok body) :
    body.columns = itemColumns content.columns := by
  obtain ⟨rows, -, h⟩ := Outcome.bind_eq_ok.mp h
  rw [← Except.ok.inj h]

/-! ### Rows of the table itself -/

theorem succeeds_authoredRows_iff (json : (Value.obj l.data).IsJson) {content : TableContent}
    (given : ∀ row ∈ content.rows, ∀ v ∈ row, v.IsJson) :
    Succeeds (authoredRows content l) ↔ ∀ row ∈ content.rows, ∀ s, .str s ∈ row → l.Fills s := by
  rw [authoredRows, Outcome.succeeds_bind_iff_left fun _ => Outcome.succeeds_pure,
    Outcome.succeeds_mapM]
  refine forall₂_congr fun row hrow => ?_
  rw [Outcome.succeeds_mapM]
  refine ⟨fun h s hs => (l.succeeds_merge_iff json (.str s)).mp (h _ hs) s rfl, fun h v hv => ?_⟩
  exact (l.succeeds_merge_iff json (given row hrow v hv)).mpr fun s same => h s (same ▸ hv)

theorem labels_withWidths (columns : List Column) (widths : List (Option String)) :
    (withWidths columns widths).map Column.label = columns.map Column.label := by
  induction columns generalizing widths with
  | nil => cases widths <;> rfl
  | cons c cs ih =>
    cases widths with
    | nil => rfl
    | cons w ws =>
      rw [withWidths, List.map_cons, List.map_cons, ih]
      cases nonempty? w <;> rfl

theorem fills_empty (l : Lookup) : l.Fills "" := by
  intro path placed
  rw [String.toList_empty, segments] at placed
  cases placed

/-- The columns that a table is widened by have no labels, and widths change none. -/
theorem fills_widened_iff (l : Lookup) (width : ℕ) (columns : List Column)
    (widths : List (Option String)) :
    (∀ c ∈ withWidths (padded width columns) widths, l.Fills c.label) ↔
      ∀ c ∈ columns, l.Fills c.label := by
  rw [← List.forall_mem_map , labels_withWidths, padded,
    List.forall_mem_map, List.forall_mem_append]
  refine and_iff_left fun c hc => ?_
  rw [List.eq_of_mem_replicate hc]
  exact fills_empty l

/-- The columns of the table itself have only the labels that are listed. -/
theorem fills_authoredRows_iff {content : TableContent} {body : TableRows}
    (h : authoredRows content l = .ok body) : (∀ c ∈ body.columns, l.Fills c.label) ↔
      ∀ columns, content.columns = .listed columns → ∀ c ∈ columns, l.Fills c.label := by
  obtain ⟨rows, -, h⟩ := Outcome.bind_eq_ok.mp h
  rw [← Except.ok.inj h]
  dsimp only
  rw [fills_widened_iff]
  cases content.columns with
  | listed cs => simp
  | flags shown => simp

end QuotationPress.Merge
