import QuotationPress.Page.Document
import QuotationPress.Proofs.Outcome
import QuotationPress.Proofs.Page.Fold

/-!
# Totals over the markup of an element

What an element counts for is what its rows count for, as long as the tags around and beside them
count for nothing. Those tags have few classes: the one of the outer box, which begins with
`element`, and the ones of `besideClasses`. `total_markup_of_rowless` and `total_markup_table` go
through the layouts once, for every measure.
-/

namespace QuotationPress

namespace ElementView

/-- The classes of texts in a block. -/
def textClasses : List String := ["terms-content", "text-content", "generic-content"]

/-- Classes that no row has. -/
def besideClasses : List String :=
  textClasses ++ ["header-meta", "label", "value", "emphasized", "logo", "items-table",
    "totals-table",
    "signature-area", "signature-line", "signature-name", "signature-date", "preview", "document",
    "quotation-container"]

/-- Attributes that no row has: a class among them is that of an outer box or one of those beside
the rows. -/
def BesideRows (attributes : Attributes) : Prop :=
  ∀ a ∈ attributes, a.1 = .classes → a.2 ∈ besideClasses ∨ "element ".toList <+: a.2.toList

/-- A view without rows; the class of its text, if it is a block, is one of a page. -/
def Rowless : ElementView → Prop
  | table _ _ => False
  | block _ _ _ bodyClass => bodyClass ∈ textClasses
  | _ => True

theorem besideRows_nil : BesideRows [] := by simp [BesideRows]

theorem besideRows_classes {w : String} (beside : w ∈ besideClasses) :
    BesideRows [(.classes, w)] := by
  simp [BesideRows, beside]

theorem besideRows_style (style : String) : BesideRows [(.style, style)] := by simp [BesideRows]

/-- The box of an element has a class that begins with the word for it, whatever its kind and its
classes are. -/
theorem besideRows_frameAttributes (f : Frame) : BesideRows (frameAttributes f) := by
  have box : "element ".toList <+:
      (Value.joinedBy " " ("element" :: ("element-" ++ f.kind) :: f.classes)).toList := by
    have whole : Value.joinedBy " " ("element" :: ("element-" ++ f.kind) :: f.classes) =
        "element" ++ (" " ++ Value.joinedBy " " (("element-" ++ f.kind) :: f.classes)) :=
      String.append_assoc
    rw [whole, ← String.append_assoc, String.toList_append]
    exact List.prefix_append ..
  intro a inside isClasses
  obtain rfl | later := List.mem_cons.mp inside
  · exact .inr box
  · split_ifs at later
    · simp at later
    · simp [List.mem_singleton.mp later] at isClasses

open Markup

variable {β : Type} [AddMonoid β] {μ : Measure β} (plain : ∀ {as}, BesideRows as → μ.tag as = 0)
include plain

/-- The line of a title counts for nothing. -/
theorem totalAll_titleLine (title : String) : totalAll μ (titleLine title) = 0 := by
  simp [titleLine, plain besideRows_nil]

theorem totalAll_infoLine (d : String × String) : totalAll μ (infoLine d) = 0 := by
  unfold infoLine
  split <;> simp [plain besideRows_nil]

/-- So do the lines of a header. -/
theorem totalAll_detailLine (d : String × String) : totalAll μ (detailLine d) = 0 := by
  have line : μ.tag [(.classes, "header-meta")] = 0 := plain (besideRows_classes (by decide))
  have label : μ.tag [(.classes, "label")] = 0 := plain (besideRows_classes (by decide))
  simp [detailLine, line, label]

/-- So do the lines of the totals, emphasized or not. -/
theorem totalAll_totalsLine (r : TotalsRow) : totalAll μ (totalsLine r) = 0 := by
  have row : μ.tag (if r.emphasized then [(.classes, "emphasized")] else []) = 0 := by
    split
    · exact plain (besideRows_classes (by decide))
    · exact plain besideRows_nil
  have label : μ.tag [(.classes, "label")] = 0 := plain (besideRows_classes (by decide))
  have value : μ.tag [(.classes, "value")] = 0 := plain (besideRows_classes (by decide))
  simp [totalsLine, row, label, value]

/-- So does a logo. -/
theorem totalAll_logoLine {logo : Value} {ms : List Markup} (h : logoLine logo = .ok ms) :
    totalAll μ ms = 0 := by
  unfold logoLine at h
  split at h
  · obtain ⟨s, -, h⟩ := Outcome.bind_eq_ok.mp h
    have picture : BesideRows [(.classes, "logo"), (.src, s), (.alt, "")] := by
      simp [BesideRows, besideClasses]
    rw [← Except.ok.inj h]
    simp [plain picture]
  · rw [← Except.ok.inj h]
    rfl

/-- So does the row of headings. -/
theorem totalAll_headerRow (columns : List HeaderColumn) : totalAll μ (headerRow columns) = 0 := by
  have cells :
      totalAll μ (columns.map fun c => .element .th [(.style, c.style)] [.text c.label]) = 0 :=
    totalAll_map_of_zero fun c _ => by simp [plain (besideRows_style c.style)]
  simp [headerRow, plain besideRows_nil, cells]

/-- A row of data counts for what its own tag counts for. -/
theorem total_dataRow (alternate : Bool) (number : ℕ) (row : List Cell) :
    total μ (dataRow alternate number row) =
      μ.tag [(.classes, "data-row" ++
        if alternate && number % 2 == 0 then " alternate-row" else "")] := by
  have cells : totalAll μ
      (row.map fun c => .element .td [(.style, "text-align: " ++ c.2)] [.text c.1]) = 0 :=
    totalAll_map_of_zero fun c _ => by simp [plain (besideRows_style _)]
  rw [dataRow, total_classed, cells, add_zero]

/-- A table counts for what its rows count for. -/
theorem total_markup_table {frame : Frame} {view : TableView} {m : Markup}
    (h : (table frame view).markup = .ok m) : total μ m = totalAll μ (bodyRows view) := by
  have box : μ.tag [(.classes, "items-table")] = 0 := plain (besideRows_classes (by decide))
  rw [← Except.ok.inj h]
  simp [plain (besideRows_frameAttributes frame), totalAll_titleLine plain, box,
    plain besideRows_nil, totalAll_headerRow plain]

/-- Every other layout counts for nothing. -/
theorem total_markup_of_rowless {v : ElementView} (rowless : v.Rowless) {m : Markup}
    (h : v.markup = .ok m) :
    total μ m = 0 := by
  have bare : μ.tag [] = 0 := plain besideRows_nil
  have title (s : String) : totalAll μ (titleLine s) = 0 := totalAll_titleLine plain s
  have classed {w : String} (beside : w ∈ besideClasses) : μ.tag [(.classes, w)] = 0 :=
    plain (besideRows_classes beside)
  cases v with
  | header frame title subtitle details logo =>
    obtain ⟨line, hl, h⟩ := Outcome.bind_eq_ok.mp h
    have lines : totalAll μ (details.flatMap detailLine) = 0 :=
      totalAll_flatMap_of_zero fun d _ => totalAll_detailLine plain d
    rw [← Except.ok.inj h]
    simp [plain (besideRows_frameAttributes frame), totalAll_logoLine plain hl, bare, lines]
  | info frame heading fields =>
    have lines : totalAll μ (fields.flatMap infoLine) = 0 :=
      totalAll_flatMap_of_zero fun d _ => totalAll_infoLine plain d
    rw [← Except.ok.inj h]
    simp [plain (besideRows_frameAttributes frame), title, bare, lines]
  | table frame view => exact rowless.elim
  | totals frame heading rows =>
    have lines : totalAll μ (rows.flatMap totalsLine) = 0 :=
      totalAll_flatMap_of_zero fun r _ => totalAll_totalsLine plain r
    rw [← Except.ok.inj h]
    simp (disch := decide) [plain (besideRows_frameAttributes frame), title, classed, lines]
  | block frame heading text bodyClass =>
    have body : μ.tag [(.classes, bodyClass)] = 0 := classed (List.mem_append_left _ rowless)
    rw [← Except.ok.inj h]
    simp [plain (besideRows_frameAttributes frame), title, body]
  | signature frame heading name showDate showLine =>
    rw [← Except.ok.inj h]
    simp (disch := decide) [plain (besideRows_frameAttributes frame), classed, bare]

end ElementView

end QuotationPress
