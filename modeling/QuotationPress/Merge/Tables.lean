import QuotationPress.Element.Content
import QuotationPress.Format.Cell
import QuotationPress.Merge.Lookup

/-!
# Rows of tables

`itemRows` lists the items of a quotation, one row for each; `authoredRows` fills in the rows that
the table itself holds.
-/

namespace QuotationPress.Merge

/-- The columns of a table of items that names none of its own. -/
def standardColumns : List Column :=
  [{ key := "no", label := "S.No.", width := some "5%", alignment := "center" },
   { key := "description", label := "Description/Equipment Name", width := some "25%" },
   { key := "capacity", label := "Capacity/Specifications", width := some "12%",
     alignment := "center" },
   { key := "jobType", label := "Job Type", width := some "8%", alignment := "center" },
   { key := "quantity", label := "Quantity", width := some "8%", alignment := "center" },
   { key := "duration", label := "Duration/Days", width := some "10%", alignment := "center" },
   { key := "rate", label := "Rate/Day", width := some "10%", alignment := "right",
     format := some "currency" },
   { key := "rental", label := "Total Rental", width := some "12%", alignment := "right",
     format := some "currency" },
   { key := "mobilization", label := "Mobilization", width := some "10%", alignment := "right",
     format := some "currency" },
   { key := "demobilization", label := "Demobilization", width := some "10%", alignment := "right",
     format := some "currency" },
   { key := "amount", label := "Total Amount", width := some "12%", alignment := "right",
     format := some "currency" }]

/-- Keys whose numbers are amounts of money. -/
def moneyKeys : List String := ["rate", "rental", "mobilization", "demobilization", "amount"]

/-- Flags leave out the standard columns that they set to false. -/
def itemColumns (columns : Columns) : List Column :=
  match columns with
  | .flags shown => standardColumns.filter fun c => shown.lookup c.key != some false
  | .listed [] => standardColumns
  | .listed cs => cs

def nonempty? : Option String → Option String
  | some "" => none
  | s => s

/-- The value of an item under the key of a column; the number of the row stands for a missing
one. -/
def cellValue (item : Fields) (index : Nat) (key : String) : Value :=
  let v := item.get key
  if v.isNull && key == "no" then .int (index + 1) else v

/-- The format of a column, or money for the numbers under certain keys. -/
def cellFormat (c : Column) (v : Value) : Option String :=
  match nonempty? c.format with
  | some f => some f
  | none => if moneyKeys.contains c.key && !v.isText then some "currency" else none

def itemCell (r : RowLookup) (index : Nat) (c : Column) : Outcome String := do
  let text ← match nonempty? c.value with
    | some t => r.mergeText t
    | none =>
      let v := cellValue r.item index c.key
      Format.cell r.parent.symbol (cellFormat c v) v
  return if text = "" then "-" else text

def itemRow (l : Lookup) (columns : List Column) (index : Nat) (item : Fields) :
    Outcome (List String) := do
  let r ← l.forRow item index
  columns.mapM (itemCell r index)

def itemRowsFrom (l : Lookup) (columns : List Column) :
    Nat → List Value → Outcome (List (List String))
  | _, [] => .ok []
  | index, item :: rest => do
    let row ← itemRow l columns index ((item.fields?).getD [])
    return row :: (← itemRowsFrom l columns (index + 1) rest)

def contextItems (l : Lookup) : List Value := ((l.data.get "items").items?).getD []

structure TableRows where
  columns : List Column
  rows : List (List String)

/-- One row for each item of the context, one cell for each column. -/
def itemRows (content : TableContent) (l : Lookup) : Outcome TableRows := do
  let columns := itemColumns content.columns
  return { columns, rows := ← itemRowsFrom l columns 0 (contextItems l) }

/-- As many columns as the widest row has cells. -/
def padded (width : Nat) (columns : List Column) : List Column :=
  columns ++ List.replicate (width - columns.length) ({ } : Column)

/-- The widths of the columns replaced, from the left, by those that are given. -/
def withWidths : List Column → List (Option String) → List Column
  | c :: cs, w :: ws =>
    (match nonempty? w with | some w => { c with width := some w } | none => c) :: withWidths cs ws
  | cs, _ => cs

/-- The rows of the table itself, every cell filled in. -/
def authoredRows (content : TableContent) (l : Lookup) : Outcome TableRows := do
  let columns := match content.columns with | .listed cs => cs | .flags _ => []
  let rows ← content.rows.mapM fun row => row.mapM l.merge
  let width := (rows.map List.length).foldl max columns.length
  return { columns := withWidths (padded width columns) content.columnWidths, rows }

end QuotationPress.Merge
