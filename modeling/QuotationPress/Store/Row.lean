import QuotationPress.Settings
import QuotationPress.Template.Basic
import QuotationPress.Text.Blank

/-!
# The rows of the template store

Elements, settings and branding are kept as JSON texts, which older writers have encoded more than
once. `TemplateRow.template` resolves all of that and gives the template of a row.
-/

namespace QuotationPress

/-- What a template says, in the form in which it is kept. -/
structure StoredContent where
  name : String
  description : String := ""
  theme : String := "MODERN"
  category : String := "quotation"
  scope : String := "quotation"
  elements : String := "[]"
  settings : String := "\x7b\x7d"
  branding : String := "\x7b\x7d"
  deriving Repr, DecidableEq

structure TemplateRow extends StoredContent where
  id : String
  isDefault : Bool := false
  isActive : Bool := true
  version : Int := 1
  createdBy : Option String := none
  createdAt : Moment
  updatedAt : Moment
  deriving DecidableEq

/-! ### Texts that encode values -/

/-- The value of a JSON text; a text with nothing in it has none. -/
def readEncoded? (s : String) : Option Value := if Text.strip s = "" then none else Json.read? s

/-- The value that a column holds, encoded once or twice. -/
def columnValue? (s : String) : Option Value :=
  match readEncoded? s with
  | some (.str inner) => readEncoded? inner
  | v => v

/-- The list in a column; anything else counts as the empty list. -/
def columnItems (s : String) : List Value := (((columnValue? s).bind Value.items?)).getD []

/-- The object in a column; anything else counts as the empty object. -/
def columnFields (s : String) : Fields := ((columnValue? s).bind Value.fields?).getD []

namespace StoredElement

/-- An entry that encodes a value as a text stands for that value. -/
def decoded : Value → Value
  | .str s => (Json.read? s).getD (.str s)
  | v => v

/-- The name of an element that is kept without one. -/
def positionalId (rowId : String) (index : Nat) : String :=
  rowId ++ "-el-" ++ String.ofList (numeral index)

/-- The entries of an element, with a type and a name in any case. -/
def completed (rowId : String) (index : Nat) (fs : Fields) : Outcome Fields := do
  let type ← ((fs.get "type").orElse (.str "unknown")).text
  let fs := fs.put "type" (.str type)
  return if (fs.get "id").isTruthy then fs else fs.put "id" (.str (positionalId rowId index))

/-- The elements of a list, counted from `index`; entries that are no objects are left out. -/
def normalized (rowId : String) : Nat → List Value → Outcome (List Value)
  | _, [] => .ok []
  | index, v :: rest =>
    match decoded v with
    | .obj fs => do
      return .obj (← completed rowId index fs) :: (← normalized rowId (index + 1) rest)
    | _ => normalized rowId (index + 1) rest

end StoredElement

/-- `s`, or `fallback` in place of the empty text. -/
def filledText (s fallback : String) : String := if s = "" then fallback else s

namespace TemplateRow

/-- The elements of a row, or every reason why they are none. -/
def readElements (r : TemplateRow) : Outcome (List TemplateElement) := do
  let entries ← StoredElement.normalized r.id 0 (columnItems r.elements)
  ((Checked.eachFrom (fun i => TemplateElement.check (freshElementId i)) 0 entries).under
    "elements").outcome "Template"

def template (r : TemplateRow) : Outcome Template := do
  let elements ← r.readElements
  return {
    id := some r.id, name := r.name, description := r.description
    theme := filledText r.theme "MODERN", category := filledText r.category "quotation"
    scope := filledText r.scope Settings.defaultScope
    elements, settings := columnFields r.settings, branding := columnFields r.branding
    isDefault := r.isDefault, isActive := r.isActive, version := r.version
    createdBy := r.createdBy, createdAt := some r.createdAt, updatedAt := some r.updatedAt }

end TemplateRow

end QuotationPress
