import QuotationPress.Context.Paths
import QuotationPress.Context.RenderContext
import QuotationPress.Format.Amount
import QuotationPress.Merge.Placeholder

/-!
# Values for placeholders

A `Lookup` holds the data of a document and a table of the texts of all its leaves; `Lookup.resolve`
answers from the table first, then by walking the data, then with a word for what is missing.
`Lookup.merge` fills in a text.
-/

namespace QuotationPress.Merge

/-- Paths that identify a quotation read `N/A` when nothing is known; all others stay blank. -/
def namedWhenMissing : List String :=
  ["quotation.id", "quotation.number", "quotation.date", "quotation.validUntil"]

def missingText (path : String) : String := if namedWhenMissing.contains path then "N/A" else ""

/-- The buckets that answer for each other. -/
def otherBucket? (bucket : String) : Option String :=
  if bucket = "client" then some "customer" else if bucket = "customer" then some "client" else none

/-- The same path in the bucket that answers for its own. -/
def otherPath? (path : String) : Option String :=
  let (bucket, rest) := Text.partition '.' path
  if rest.isEmpty then none else (otherBucket? bucket).map fun other => other ++ "." ++ rest

/-- The text of the value at a path: an amount of money below `totals`, else the plain text. -/
def pathText (symbol path : String) (v : Value) : Outcome String :=
  if v.isText || !"totals.".toList.isPrefixOf path.toList then Format.plain v
  else do
    match ← Format.decimalOf? v with
    | some _ => Format.currency symbol v
    | none => Format.plain v

structure Lookup where
  data : Fields
  symbol : String
  table : List (String × String)

namespace Lookup

/-- Adds an entry unless its path is there. -/
def putNew (table : List (String × String)) (path text : String) : List (String × String) :=
  if (table.lookup path).isSome then table else table ++ [(path, text)]

def leafTexts (symbol : String) : Fields → Outcome (List (String × String))
  | [] => .ok []
  | (path, v) :: rest => do
    let text ← pathText symbol path v
    return (path, text) :: (← leafTexts symbol rest)

/-- The table with an entry for the other path of every path that has one. -/
def withOtherPaths (table : List (String × String)) : List (String × String) :=
  table.foldl (fun t e => match otherPath? e.1 with
    | some path => putNew t path e.2
    | none => t) table

def of? (symbol : String) (context : RenderContext) : Outcome Lookup := do
  let data := context.mapping
  let table ← leafTexts symbol (flatten (.obj data))
  return { data, symbol, table := withOtherPaths table }

/-- The value at a path or at its other path. -/
def raw (l : Lookup) (path : String) : Outcome Value := do
  let v ← (Value.obj l.data).walk path
  if v.isNull then
    match otherPath? path with
    | some other => (Value.obj l.data).walk other
    | none => return .null
  else return v

def resolve (l : Lookup) (path : String) : Outcome String := do
  let found := (l.table.lookup path).getD ""
  if found ≠ "" then return found
  else
    let v ← l.raw path
    let text ← if v.isNull then pure "" else pathText l.symbol path v
    return if text ≠ "" then text else missingText path

/-- A text with its placeholders filled in; of any other value the plain text. -/
def mergeWith (resolve : String → Outcome String) : Value → Outcome String
  | .str s => fill resolve s
  | v => Format.plain v

def merge (l : Lookup) (v : Value) : Outcome String := mergeWith l.resolve v

def mergeText (l : Lookup) (s : String) : Outcome String := fill l.resolve s

/-- No text gives an empty one. -/
def mergeText? (l : Lookup) : Option String → Outcome String
  | some s => l.mergeText s
  | none => .ok ""

end Lookup

/-! ### Rows -/

/-- The texts that the placeholders of a row stand for. -/
def rowValues (symbol : String) (item : Fields) (index : Int) :
    Outcome (List (String × String)) := do
  let money (key : String) : Outcome String := Format.currency symbol (item.get key)
  let name := (item.get "name").orElse (item.get "description")
  let described := (item.get "description").orElse (item.get "name")
  return [
    ("item_no", ← Format.plain ((item.get "no").orElse (.int (index + 1)))),
    ("item_name", ← Format.plain name),
    ("item_description", ← Format.plain described),
    ("item_capacity", ← Format.plain (item.get "capacity")),
    ("item_quantity", ← Format.plain (item.get "quantity")),
    ("item_unit", ← Format.plain (item.get "unit")),
    ("item_duration", ← Format.plain (item.get "duration")),
    ("item_rate", ← money "rate"),
    ("item_amount", ← money "amount")]

/-- A lookup that answers for one row first. -/
structure RowLookup where
  parent : Lookup
  item : Fields
  row : List (String × String)

def Lookup.forRow (l : Lookup) (item : Fields) (index : Int) : Outcome RowLookup := do
  return { parent := l, item, row := ← rowValues l.symbol item index }

namespace RowLookup

/-- The path inside the row item, for a path that begins with `item.`. -/
def itemPath? (path : String) : Option String :=
  let cs := path.toList
  if "item.".toList.isPrefixOf cs then some (String.ofList (cs.drop 5)) else none

def resolve (r : RowLookup) (path : String) : Outcome String :=
  match r.row.lookup path with
  | some text => .ok text
  | none =>
    match itemPath? path with
    | some inner => do Format.plain (← (Value.obj r.item).walk inner)
    | none => r.parent.resolve path

def mergeText (r : RowLookup) (s : String) : Outcome String := fill r.resolve s

def merge (r : RowLookup) (v : Value) : Outcome String := Lookup.mergeWith r.resolve v

end RowLookup

/-! ### Conditions -/

/-- Whether a number is above zero; other values only have to be given. -/
def isShownValue : Value → Outcome Bool
  | .int i => .ok (0 < i)
  | .float x => .ok x.isPositive
  | .decimal d => if d.isNan then .error .unordered else .ok d.isPositive
  | v => .ok v.isTruthy

/-- Whether a totals line is shown: `always`, `never`, if there is a discount or a tax, or if the
value at a path is given. -/
def isShown (l : Lookup) (flag : Option String) : Outcome Bool :=
  match flag with
  | none => .ok true
  | some "" => .ok true
  | some "always" => .ok true
  | some "never" => .ok false
  | some "hasDiscount" => do Format.isPositiveAmount (← l.raw "totals.discount")
  | some "hasTax" => do Format.isPositiveAmount (← l.raw "totals.tax")
  | some path => do isShownValue (← l.raw path)

end QuotationPress.Merge
