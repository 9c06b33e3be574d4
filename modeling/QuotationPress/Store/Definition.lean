import QuotationPress.Store.Draft
import QuotationPress.Text.File
import QuotationPress.Value.Text
import QuotationPress.Yaml.Document

/-!
# Definitions of templates in files

`Definition.ofFile?` reads one file, which may hold no definition at all; `Definition.ofFiles` reads
the files of a directory in the order of their paths.
-/

namespace QuotationPress

/-- A template that a file defines. -/
structure Definition where
  id : String
  content : StoredContent
  isDefault : Bool

namespace Definition

/-- The entries of a definition: an object with a name. The file's own name stands for a missing
id. -/
def entriesOf (f : TextFile) (v : Value) : Option Fields :=
  match v.fields? with
  | some fs =>
    if (fs.get "name").isTruthy then some (fs.putNew "id" (.str f.stem)) else none
  | none => none

/-- The definition in a value; a value that fits no template defines none. -/
def ofValue? (f : TextFile) (v : Value) : Outcome (Option Definition) :=
  match entriesOf f v with
  | none => .ok none
  | some fs => do
    let id ← (fs.get "id").text
    match TemplateDraft.ofFields fs with
    | .bad _ => return none
    | .good d => return some { id, content := ← d.body.stored, isDefault := d.isDefault }

/-- The definition in a file; a text that is not well formed defines none. -/
def ofFile? (f : TextFile) : Outcome (Option Definition) :=
  match Yaml.read f.text with
  | .ok v => ofValue? f v
  | .error (.unreadableFile _) => .ok none
  | .error e => .error e

/-- The definitions of a directory. Other files than data files are left aside. -/
def ofFiles (files : List TextFile) : Outcome (List Definition) := do
  let files := files.filter TextFile.isDataFile
  let files := files.mergeSort fun a b => TextFile.pathBefore a.parts b.parts
  return (← files.mapM ofFile?).reduceOption

end Definition

end QuotationPress
