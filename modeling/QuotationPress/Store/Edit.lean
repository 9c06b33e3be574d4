import QuotationPress.Store.Basic
import QuotationPress.Store.Draft

/-!
# The writes of the template store

Each write gives the row it has written and the store that follows; a write that fails leaves the
rows alone. `Store.create`, `Store.replace`, `Store.patch`, `Store.setDefault`, `Store.deactivate`
and `Store.duplicate` keep to one rule: only an active row is the default of its scope, and it is
the only one.
-/

namespace QuotationPress.Store

/-- A row that was not there before: active, in its first version. -/
def newRow (s : Store) (id : String) (content : StoredContent) (isDefault : Bool)
    (createdBy : Option String) : TemplateRow :=
  { content with
    id, isDefault, isActive := true, version := 1, createdBy, createdAt := s.clock
    updatedAt := s.clock }

/-- Adds a row, which takes the default mark from the others of its scope if it carries one. -/
def insertNew (s : Store) (r : TemplateRow) : Outcome Store :=
  (if r.isDefault then s.clearDefaults r.scope none else s).insert r

/-- The row, once it has been added; else the store as it was. -/
def added (s : Store) (r : TemplateRow) : Outcome TemplateRow × Store :=
  match s.insertNew r with
  | .ok s' => (.ok r, s')
  | .error f => (.error f, s)

/-- The id is spent even where nothing can be stored. -/
def create (s : Store) (d : TemplateDraft) : Outcome TemplateRow × Store :=
  let (id, s) := s.issueId
  match d.body.stored with
  | .ok content => s.added (s.newRow id content d.isDefault d.createdBy)
  | .error f => (.error f, s)

/-! ### Changes of one row -/

/-- The row with new content and new marks, one version on. -/
def revised (r : TemplateRow) (content : StoredContent) (isDefault isActive : Bool) : TemplateRow :=
  { r with toStoredContent := content, isDefault, isActive, version := r.version + 1 }

/-- Writes a revision of a row. One that carries the default mark takes it from the others. -/
def writeRevision (s : Store) (r : TemplateRow) (content : StoredContent)
    (isDefault isActive : Bool) : TemplateRow × Store :=
  let s := if isDefault then s.clearDefaults content.scope (some r.id) else s
  let r' := { revised r content isDefault isActive with updatedAt := s.clock }
  (r', s.modify r.id fun _ => r')

/-- Replaces all of a row. Inactive rows can be replaced as well. -/
def replace (s : Store) (id : String) (d : TemplateReplacement) :
    Outcome (Option TemplateRow) × Store :=
  match s.find? id with
  | none => (.ok none, s)
  | some r =>
    match d.body.stored with
    | .error f => (.error f, s)
    | .ok content =>
      let (r, s) := s.writeRevision r content (d.isDefault && d.isActive) d.isActive
      (.ok (some r), s)

/-- What became of a patch. -/
inductive Patched where
  | missing
  /-- Somebody else has changed the row since its version was seen. -/
  | conflict (expected actual : Int)
  | updated (row : TemplateRow)

/-- Writes the given fields into a row. A row that is or becomes inactive loses the default mark. -/
def patchRow (s : Store) (r : TemplateRow) (p : TemplatePatch) : Outcome Patched × Store :=
  let isActive := p.isActive.getD r.isActive
  match p.applied r.toStoredContent with
  | .error f => (.error f, s)
  | .ok content =>
    let (row, s) := s.writeRevision r content (p.isDefault.getD r.isDefault && isActive) isActive
    (.ok (.updated row), s)

/-- Changes some fields of a row, provided that its version is the expected one. `meanwhile` is what
other writers do between the look at the row and the write; the version is compared again by the
write itself. -/
def patchAmid (s : Store) (id : String) (p : TemplatePatch) (meanwhile : Store → Store) :
    Outcome Patched × Store :=
  match s.find? id with
  | none => (.ok .missing, s)
  | some r =>
    if r.version ≠ p.expectedVersion then (.ok (.conflict p.expectedVersion r.version), s)
    else
      let s := meanwhile s
      match s.find? id with
      | none => (.ok .missing, s)
      | some now =>
        if now.version ≠ p.expectedVersion then (.ok (.conflict p.expectedVersion now.version), s)
        else s.patchRow now p

def patch (s : Store) (id : String) (p : TemplatePatch) : Outcome Patched × Store :=
  s.patchAmid id p fun s => s

/-- Makes an active row the only default of its scope. A row that is the default already keeps its
version. -/
def setDefault (s : Store) (id : String) : Option TemplateRow × Store :=
  match s.findUsable? id false with
  | none => (none, s)
  | some r =>
    if r.isDefault then (some r, s.clearDefaults r.scope (some r.id))
    else
      let (r, s) := s.writeRevision r r.toStoredContent true r.isActive
      (some r, s)

/-- Takes a row out of use; it can be read on request and replaced, but not rendered. -/
def deactivate (s : Store) (id : String) : Bool × Store :=
  match s.findUsable? id false with
  | none => (false, s)
  | some r => (true, (s.writeRevision r r.toStoredContent false false).2)

/-- The description of a copy. -/
def copyDescription (description : String) : String :=
  if description = "" then "(Copy)" else Text.strip (description ++ " (Copy)")

def copyName (name : String) : Option String → String
  | some wish => if wish = "" then name ++ " (Copy)" else wish
  | none => name ++ " (Copy)"

/-- The content of a copy: all as in the source but name and description. -/
def copyContent (c : StoredContent) (wish : Option String) : StoredContent :=
  { c with name := copyName c.name wish, description := copyDescription c.description }

/-- Adds a copy of an active row. The copy is never the default. -/
def duplicate (s : Store) (id : String) (name : Option String) :
    Outcome (Option TemplateRow) × Store :=
  match s.findUsable? id false with
  | none => (.ok none, s)
  | some r =>
    let (id, s) := s.issueId
    match s.added (s.newRow id (copyContent r.toStoredContent name) false r.createdBy) with
    | (.ok r, s) => (.ok (some r), s)
    | (.error f, s) => (.error f, s)

end QuotationPress.Store
