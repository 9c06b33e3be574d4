import QuotationPress.Element.Content
import QuotationPress.Validation.Checked

/-!
# Element content as loosely typed data again

`Content.listing` writes out every field, spelled plain or in camel case; `Content.filled` leaves
out what is null.
-/

namespace QuotationPress

namespace Value

mutual

/-- The value without the entries of objects that are null. -/
def withoutNulls : Value → Value
  | list xs => list (itemsWithoutNulls xs)
  | obj fs => obj (fieldsWithoutNulls fs)
  | v => v

def itemsWithoutNulls : List Value → List Value
  | [] => []
  | x :: rest => withoutNulls x :: itemsWithoutNulls rest

def fieldsWithoutNulls : List (String × Value) → List (String × Value)
  | [] => []
  | (_, .null) :: rest => fieldsWithoutNulls rest
  | (key, v) :: rest => (key, withoutNulls v) :: fieldsWithoutNulls rest

end

end Value

open Value (ofText?)

/-- An object with the names of its entries spelled in a chosen way. -/
def listed (sp : Spelling) (fs : Fields) : Value := .obj (fs.map fun e => (sp.shown e.1, e.2))

def InfoLine.listing (sp : Spelling) : InfoLine → Value
  | field f => listed sp [("label", ofText? f.label), ("value", .str f.value)]
  | text s => .str s

def Column.listing (sp : Spelling) (c : Column) : Value :=
  listed sp [("key", .str c.key), ("label", .str c.label), ("width", ofText? c.width),
    ("alignment", .str c.alignment), ("format", ofText? c.format), ("value", ofText? c.value)]

def Columns.listing (sp : Spelling) : Columns → Value
  | listed cs => .list (cs.map (Column.listing sp))
  | flags shown => .obj (shown.map fun e => (e.1, .bool e.2))

def TotalsLine.listing (sp : Spelling) (l : TotalsLine) : Value :=
  listed sp [("label", .str l.label), ("value", .str l.value), ("show_if", .str l.showIf),
    ("emphasized", .bool l.emphasized)]

namespace Content

def listing (sp : Spelling) : Content → Value
  | header c => listed sp [("title", .str c.title), ("subtitle", ofText? c.subtitle),
      ("show_date", .bool c.showDate), ("show_quotation_number", .bool c.showQuotationNumber),
      ("alignment", .str c.alignment)]
  | info c =>
    listed sp [("title", ofText? c.title), ("fields", .list (c.fields.map (InfoLine.listing sp))),
      ("layout", .str c.layout), ("alignment", .str c.alignment)]
  | table c => listed sp [("title", ofText? c.title), ("rows", .list (c.rows.map .list)),
      ("columns", c.columns.listing sp), ("show_header", .bool c.showHeader),
      ("column_widths", .list (c.columnWidths.map ofText?)),
      ("alternate_rows", .bool c.alternateRows)]
  | totals c => listed sp [("title", ofText? c.title),
      ("fields", .list (c.fields.map (TotalsLine.listing sp))), ("alignment", .str c.alignment)]
  | terms c => listed sp [("title", .str c.title), ("text", .str c.text),
      ("default_text", .str c.defaultText), ("show_title", .bool c.showTitle)]
  | signature c => listed sp [("title", .str c.title), ("name", .str c.name),
      ("show_name", .bool c.showName), ("show_date", .bool c.showDate),
      ("signature_line", .bool c.signatureLine), ("alignment", .str c.alignment)]
  | text c => listed sp [("title", ofText? c.title), ("text", .str c.text)]

/-- The content as a template spells it, null fields left out. -/
def filled (c : Content) : Value := (c.listing .camel).withoutNulls

end Content

end QuotationPress
