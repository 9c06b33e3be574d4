import QuotationPress.Calendar.Iso
import QuotationPress.Text.Blank
import QuotationPress.Value.Text

/-!
# Values as readers of a document see them

`Format.longDate` writes a date as `19 October 2026`, `Format.plain` writes any value that stands in
a line of text.
-/

namespace QuotationPress.Format

/-- `cs` with the letter `Z`, the mark of universal time, written as an offset. -/
def expandZulu (cs : List Char) : List Char :=
  cs.flatMap fun c => if c = 'Z' then ['+', '0', '0', ':', '0', '0'] else [c]

/-- The day that a text names: a moment or a date in ISO form, with anything after ten characters
left out if need be. -/
def readDay? (s : String) : Option Date :=
  let cs := Text.trim s.toList
  match Iso.readMoment? (expandZulu cs) with
  | some m => some m.date
  | none => Iso.readDate? (cs.take 10)

/-- A date in words; a text that names no day stays as it is. -/
def longDate : Value → Outcome String
  | .null => .ok ""
  | .str s => .ok (match readDay? s with | some d => d.longForm | none => s)
  | .date d => .ok d.longForm
  | .moment m => .ok m.date.longForm
  | v => v.text

/-- Null and containers have no text, flags read `Yes` or `No`, and whole numbers have no point. -/
def plain : Value → Outcome String
  | .null => .ok ""
  | .list _ => .ok ""
  | .tuple _ => .ok ""
  | .obj _ => .ok ""
  | .keyed _ => .ok ""
  | .bool b => .ok (if b then "Yes" else "No")
  | .float x =>
    match x.whole? with
    | some i => Value.intText i
    | none => (Value.float x).text
  | .date d => longDate (.date d)
  | .moment m => longDate (.moment m)
  | v => v.text

end QuotationPress.Format
