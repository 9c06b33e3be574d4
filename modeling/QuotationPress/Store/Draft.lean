import QuotationPress.Store.Row

/-!
# What writers hand to the template store

A `TemplateDraft` is for a new template, a `TemplateReplacement` for all of an old one, a
`TemplatePatch` for parts of it. Each is read from loosely typed data; `TemplateBody.stored` is the
form in which a body is kept.
-/

namespace QuotationPress

namespace Lenient

/-- A text of `least` to `most` characters. -/
def textOf (least most : Nat) (v : Value) : Checked String :=
  (text v).andThen fun s =>
    if s.length < least then .fault (.tooShort least)
    else if most < s.length then .fault (.tooLong most)
    else .good s

def name : Value → Checked String := textOf 1 128

def wholeFrom (least : Int) (v : Value) : Checked Int :=
  (whole v).andThen fun i => if i < least then .fault (.below least) else .good i

def objects : Value → Checked (List Fields) := listOf object

end Lenient

/-- What a template says. -/
structure TemplateBody where
  name : String
  description : String := ""
  theme : String := "MODERN"
  category : String := "quotation"
  scope : String := "quotation"
  elements : List Fields := []
  settings : Fields := []
  branding : Fields := []

open Checked (optional required)

namespace TemplateBody

/-- All but the name may be left out. -/
def ofSomeFields (fs : Fields) : Checked TemplateBody :=
  mk <$> required .plain fs "name" Lenient.name
    <*> optional .plain fs "description" "" Lenient.text
    <*> optional .plain fs "theme" "MODERN" Lenient.text
    <*> optional .plain fs "category" "quotation" Lenient.text
    <*> optional .plain fs "scope" "quotation" Lenient.text
    <*> optional .plain fs "elements" [] Lenient.objects
    <*> optional .plain fs "settings" [] Lenient.object
    <*> optional .plain fs "branding" [] Lenient.object

/-- Nothing may be left out. -/
def ofAllFields (fs : Fields) : Checked TemplateBody :=
  mk <$> required .plain fs "name" Lenient.name
    <*> required .plain fs "description" Lenient.text
    <*> required .plain fs "theme" Lenient.text
    <*> required .plain fs "category" Lenient.text
    <*> required .plain fs "scope" Lenient.text
    <*> required .plain fs "elements" Lenient.objects
    <*> required .plain fs "settings" Lenient.object
    <*> required .plain fs "branding" Lenient.object

def elementsText (elements : List Fields) : Outcome String :=
  (Value.list (elements.map Value.obj)).toJson

def fieldsText (fs : Fields) : Outcome String := (Value.obj fs).toJson

/-- Elements, settings and branding become JSON texts. -/
def stored (b : TemplateBody) : Outcome StoredContent := do
  let elements ← elementsText b.elements
  let settings ← fieldsText b.settings
  let branding ← fieldsText b.branding
  return {
    name := b.name, description := b.description, theme := b.theme, category := b.category
    scope := b.scope, elements, settings, branding }

end TemplateBody

structure TemplateDraft where
  body : TemplateBody
  isDefault : Bool := false
  createdBy : Option String := none

namespace TemplateDraft

def ofFields (fs : Fields) : Checked TemplateDraft :=
  mk <$> TemplateBody.ofSomeFields fs
    <*> optional .plain fs "is_default" false Lenient.flag
    <*> optional .plain fs "created_by" none (Lenient.optional Lenient.text)

def check (v : Value) : Checked TemplateDraft :=
  (Lenient.record "TemplateCreate" v).andThen ofFields

def read? (v : Value) : Outcome TemplateDraft := (check v).outcome "TemplateCreate"

end TemplateDraft

structure TemplateReplacement where
  body : TemplateBody
  isDefault : Bool
  isActive : Bool := true

namespace TemplateReplacement

def ofFields (fs : Fields) : Checked TemplateReplacement :=
  mk <$> TemplateBody.ofAllFields fs
    <*> required .plain fs "is_default" Lenient.flag
    <*> optional .plain fs "is_active" true Lenient.flag

def check (v : Value) : Checked TemplateReplacement :=
  (Lenient.record "TemplateReplace" v).andThen ofFields

def read? (v : Value) : Outcome TemplateReplacement := (check v).outcome "TemplateReplace"

end TemplateReplacement

/-- Some fields of a template and the version that the writer has last seen. A field that is left
out or null stays as it is. -/
structure TemplatePatch where
  expectedVersion : Int
  name : Option String := none
  description : Option String := none
  theme : Option String := none
  category : Option String := none
  scope : Option String := none
  elements : Option (List Fields) := none
  settings : Option Fields := none
  branding : Option Fields := none
  isDefault : Option Bool := none
  isActive : Option Bool := none

namespace TemplatePatch

def ofFields (fs : Fields) : Checked TemplatePatch :=
  mk <$> required .plain fs "expected_version" (Lenient.wholeFrom 1)
    <*> optional .plain fs "name" none (Lenient.optional Lenient.name)
    <*> optional .plain fs "description" none (Lenient.optional Lenient.text)
    <*> optional .plain fs "theme" none (Lenient.optional Lenient.text)
    <*> optional .plain fs "category" none (Lenient.optional Lenient.text)
    <*> optional .plain fs "scope" none (Lenient.optional Lenient.text)
    <*> optional .plain fs "elements" none (Lenient.optional Lenient.objects)
    <*> optional .plain fs "settings" none (Lenient.optional Lenient.object)
    <*> optional .plain fs "branding" none (Lenient.optional Lenient.object)
    <*> optional .plain fs "is_default" none (Lenient.optional Lenient.flag)
    <*> optional .plain fs "is_active" none (Lenient.optional Lenient.flag)

def check (v : Value) : Checked TemplatePatch :=
  (Lenient.record "TemplatePatch" v).andThen ofFields

def read? (v : Value) : Outcome TemplatePatch := (check v).outcome "TemplatePatch"

/-- The text of a value that is given, or the text that is kept. -/
def textOr {α : Type} (write : α → Outcome String) (kept : String) : Option α → Outcome String
  | some a => write a
  | none => .ok kept

/-- The content of a row with the given fields in their places. -/
def applied (p : TemplatePatch) (c : StoredContent) : Outcome StoredContent := do
  let elements ← textOr TemplateBody.elementsText c.elements p.elements
  let settings ← textOr TemplateBody.fieldsText c.settings p.settings
  let branding ← textOr TemplateBody.fieldsText c.branding p.branding
  return {
    name := p.name.getD c.name, description := p.description.getD c.description
    theme := p.theme.getD c.theme, category := p.category.getD c.category
    scope := p.scope.getD c.scope, elements, settings, branding }

end TemplatePatch

end QuotationPress
