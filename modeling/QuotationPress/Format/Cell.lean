import QuotationPress.Format.Amount

/-!
# Cells of a table

A column may ask for a format by name; `Format.cell` writes a value in it.
-/

namespace QuotationPress.Format

/-- Unknown names, and none, stand for the plain text. -/
def cell (symbol : String) (format : Option String) (v : Value) : Outcome String :=
  if v.isBlankField then .ok ""
  else match format with
    | some "currency" => currency symbol v
    | some "number" => number v
    | some "date" => longDate v
    | _ => plain v

end QuotationPress.Format
