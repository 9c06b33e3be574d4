import QuotationPress.Element.Kind
import QuotationPress.Validation.Moments
import QuotationPress.Value.Json

/-!
# Templates

A template is an ordered list of elements with a theme and page settings. `Template.check` reads a
template from loosely typed data, values that were stored as JSON texts included; `Template.listing`
writes one out.
-/

namespace QuotationPress

structure TemplateElement where
  id : String
  type : String
  content : Value := .null
  style : Fields := []
  visible : Bool := true
  config : Option Fields := none
  /-- Entries of other names; they are kept. -/
  extra : Fields := []

structure Template where
  id : Option String := none
  name : String := ""
  description : String := ""
  theme : String := "MODERN"
  category : String := "quotation"
  scope : String := "quotation"
  elements : List TemplateElement := []
  settings : Fields := []
  branding : Fields := []
  isDefault : Bool := false
  isActive : Bool := true
  version : Int := 1
  createdBy : Option String := none
  createdAt : Option Moment := none
  updatedAt : Option Moment := none

/-- Whether a text may be a list or an object in JSON; two opening braces begin a placeholder. -/
def looksEncoded : List Char → Bool
  | '\x7b' :: '\x7b' :: _ => false
  | c :: _ => c == '\x7b' || c == '['
  | [] => false

/-- The value that a text encodes as JSON, or the value itself. -/
def decodedValue : Value → Value
  | .str s =>
    let cs := Text.trim s.toList
    if looksEncoded cs then (Json.readChars? cs).getD (.str s) else .str s
  | v => v

/-- The entries of an object, possibly encoded as a text; of anything else none. -/
def decodedFields (v : Value) : Fields := ((decodedValue v).fields?).getD []

/-- The `n`-th name for an element that comes without one. -/
def freshElementId (n : Nat) : String := "element_" ++ String.ofList (Text.hexPadded 12 n)

open Checked (optional required)

namespace TemplateElement

def kind (e : TemplateElement) : Option ElementKind := ElementKind.ofTag? e.type

def fieldNames : List String := ["id", "type", "content", "style", "visible", "config"]

def ofFields (freshId : String) (fs : Fields) : Checked TemplateElement :=
  mk <$> optional .plain fs "id" freshId Lenient.text
    <*> required .plain fs "type" Lenient.text
    <*> optional .plain fs "content" .null (fun v => .good (decodedValue v))
    <*> optional .plain fs "style" [] (fun v => .good (decodedFields v))
    <*> optional .plain fs "visible" true (fun v => if v.isNull then .good true else Lenient.flag v)
    <*> optional .plain fs "config" none (fun v => .good (decodedValue v).fields?)
    <*> .good (fs.filter fun e => !fieldNames.contains e.1)

def check (freshId : String) (v : Value) : Checked TemplateElement :=
  (Lenient.record "TemplateElement" v).andThen (ofFields freshId)

def fields (e : TemplateElement) : Fields :=
  [("id", .str e.id), ("type", .str e.type), ("content", e.content), ("style", .obj e.style),
    ("visible", .bool e.visible), ("config", (e.config.map Value.obj).getD .null)] ++ e.extra

def listing (e : TemplateElement) : Value := .obj e.fields

end TemplateElement

namespace Template

/-- The list of elements; null stands for none, and the whole may be encoded as a text. `issued`
names have been given out before. -/
def checkElements (issued : Nat) (v : Value) : Checked (List TemplateElement) :=
  match decodedValue v with
  | .null => .good []
  | w => (Lenient.list w).andThen
      (Checked.eachFrom (fun i => TemplateElement.check (freshElementId (issued + i))) 0)

def ofFields (issued : Nat) (fs : Fields) : Checked Template :=
  mk <$> optional .plain fs "id" none (Lenient.optional Lenient.text)
    <*> optional .plain fs "name" "" Lenient.text
    <*> optional .plain fs "description" "" Lenient.text
    <*> optional .plain fs "theme" "MODERN" Lenient.text
    <*> optional .plain fs "category" "quotation" Lenient.text
    <*> optional .plain fs "scope" "quotation" Lenient.text
    <*> optional .plain fs "elements" [] (checkElements issued)
    <*> optional .plain fs "settings" [] (fun v => .good (decodedFields v))
    <*> optional .plain fs "branding" [] (fun v => .good (decodedFields v))
    <*> optional .plain fs "is_default" false Lenient.flag
    <*> optional .plain fs "is_active" true Lenient.flag
    <*> optional .plain fs "version" 1 Lenient.whole
    <*> optional .plain fs "created_by" none (Lenient.optional Lenient.text)
    <*> optional .plain fs "created_at" none (Lenient.optional Lenient.moment)
    <*> optional .plain fs "updated_at" none (Lenient.optional Lenient.moment)

def check (issued : Nat) (v : Value) : Checked Template :=
  (Lenient.record "Template" v).andThen (ofFields issued)

def read? (v : Value) : Outcome Template := (check 0 v).outcome "Template"

def listing (t : Template) : Value :=
  .obj [("id", .ofText? t.id), ("name", .str t.name), ("description", .str t.description),
    ("theme", .str t.theme), ("category", .str t.category), ("scope", .str t.scope),
    ("elements", .list (t.elements.map TemplateElement.listing)), ("settings", .obj t.settings),
    ("branding", .obj t.branding), ("is_default", .bool t.isDefault),
    ("is_active", .bool t.isActive), ("version", .int t.version),
    ("created_by", .ofText? t.createdBy), ("created_at", (t.createdAt.map Value.moment).getD .null),
    ("updated_at", (t.updatedAt.map Value.moment).getD .null)]

end Template

end QuotationPress
