import QuotationPress.Store.Basic
import QuotationPress.Template.BuiltIn
import QuotationPress.Text.Pattern

/-!
# The reads of the template store

`Store.get?` and `Store.load` read one template, `Store.list` those that pass a filter, and
`Store.resolve` finds the one to render with: the one asked for, else the default of a scope, else
the oldest of the scope, else the built-in one.
-/

namespace QuotationPress

/-- Which templates are listed. An empty text lets every template pass. -/
structure TemplateFilter where
  category : String := ""
  scope : String := ""
  /-- A pattern to look for in name and description. -/
  search : String := ""
  withInactive : Bool := false
  /-- How many are listed at most; no limit when it is missing or below zero. -/
  limit : Option Int := some 100
  offset : Int := 0

namespace TemplateFilter

def passes (f : TemplateFilter) (r : TemplateRow) : Bool :=
  (f.withInactive || r.isActive)
    && (f.category = "" || r.category = f.category)
    && (f.scope = "" || r.scope = f.scope)
    && (f.search = "" || Text.holdsLike f.search r.name || Text.holdsLike f.search r.description)

/-- The part of a list that the limits leave. -/
def page {α : Type} (f : TemplateFilter) (xs : List α) : List α :=
  let rest := xs.drop f.offset.toNat
  match f.limit with
  | some n => if n < 0 then rest else rest.take n.toNat
  | none => rest

/-- Whether the store can count that far: it does so with 64 bits. -/
def countable (f : TemplateFilter) : Bool :=
  let fits (n : Int) : Bool := -wordLimit ≤ n && n < wordLimit
  fits f.offset && (f.limit.map fits).getD true

end TemplateFilter

namespace TemplateRow

/-- Defaults come first, then names in the order of their characters, then ids. -/
def listedBefore (a b : TemplateRow) : Bool :=
  if a.isDefault ≠ b.isDefault then a.isDefault
  else if a.name ≠ b.name then a.name < b.name
  else a.id ≤ b.id

/-- Later changes come first, and later versions where the dates are the same. -/
def fresherThan (a b : TemplateRow) : Bool :=
  if a.updatedAt.before b.updatedAt then false
  else if b.updatedAt.before a.updatedAt then true
  else b.version ≤ a.version

/-- Older rows come first, then ids in order. -/
def olderThan (a b : TemplateRow) : Bool :=
  if a.createdAt.before b.createdAt then true
  else if b.createdAt.before a.createdAt then false
  else a.id ≤ b.id

end TemplateRow

namespace Store

/-- The template with an id. -/
def get? (s : Store) (id : String) (withInactive : Bool) : Outcome (Option Template) :=
  match s.findUsable? id withInactive with
  | some r => r.template.map some
  | none => .ok none

/-- The active template with an id; nothing else stands in for it. -/
def load (s : Store) (id : String) : Outcome Template := do
  match ← s.get? id false with
  | some t => return t
  | none => throw (.unknownTemplate id)

def listedRows (s : Store) (f : TemplateFilter) : List TemplateRow :=
  f.page ((s.rows.filter f.passes).mergeSort TemplateRow.listedBefore)

def list (s : Store) (f : TemplateFilter) : Outcome (List Template) :=
  if f.countable then (s.listedRows f).mapM TemplateRow.template else .error .numberTooLarge

/-! ### Defaults -/

def activeRows (s : Store) (scope : String) : List TemplateRow :=
  s.rows.filter fun r => r.scope = scope && r.isActive

/-- The row that is marked as default of a scope, the freshest of several. -/
def markedRow? (s : Store) (scope : String) : Option TemplateRow :=
  (((s.activeRows scope).filter TemplateRow.isDefault).mergeSort TemplateRow.fresherThan).head?

def oldestRow? (s : Store) (scope : String) : Option TemplateRow :=
  ((s.activeRows scope).mergeSort TemplateRow.olderThan).head?

def defaultRow? (s : Store) (scope : String) : Option TemplateRow :=
  (s.markedRow? scope).or (s.oldestRow? scope)

/-- The template of the default row of a scope; the empty scope stands for the usual one. -/
def defaultTemplate? (s : Store) (scope : String) : Outcome (Option Template) :=
  match s.defaultRow? (filledText scope Settings.defaultScope) with
  | some r => r.template.map some
  | none => .ok none

/-- What a search for a default has found, or the built-in template. -/
def orBuiltIn : Outcome (Option Template) → Template
  | .ok (some t) => t
  | _ => fallbackTemplate

/-- There is always a default. -/
def defaultTemplate (s : Store) (scope : String) : Template := orBuiltIn (s.defaultTemplate? scope)

/-- The active template with an id, else the default of the scope. -/
def resolve (s : Store) (id scope : String) : Outcome Template := do
  match ← if id = "" then pure none else s.get? id false with
  | some t => return t
  | none => return s.defaultTemplate scope

end Store

end QuotationPress
