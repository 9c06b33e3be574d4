import QuotationPress.Quotation.Record
import QuotationPress.Text.File
import QuotationPress.Yaml.Document

/-!
# Where quotation records come from

A source has records at hand, or one data file for each quotation. `QuotationSource.record?` gives
the record of an id, `QuotationSource.context?` the context it makes.
-/

namespace QuotationPress

inductive QuotationSource where
  /-- Records by id. -/
  | records (entries : Fields)
  | files (directory : List TextFile)

namespace QuotationSource

def isPlainIdChar (c : Char) : Bool :=
  Text.isAsciiLetter c || Text.isAsciiDigit c || c == '_' || c == '.' || c == '-'

/-- An id that names a file of the directory itself; a line break may stand at its end. -/
def isPlainId (id : String) : Bool :=
  let cs := Text.withoutFinalBreak id.toList
  !cs.isEmpty && cs.all isPlainIdChar && cs.head? ≠ some '.'

/-- The most bytes that the name of a file can have. -/
def fileNameLimit : Nat := 255

/-- The file of an id, under the first suffix that there is one for. -/
def fileOf? (directory : List TextFile) (id : String) : Outcome (Option TextFile) :=
  if !isPlainId id then .ok none
  else if fileNameLimit < (id ++ ".yaml").utf8ByteSize
    then .error (.fileNameTooLong (id ++ ".yaml"))
  else .ok ([".yaml", ".yml"].findSome? fun suffix => directory.find? fun f =>
    f.path = id ++ suffix)

/-- The record of an id, an object. Its own id, if it has one, stays as it is. -/
def record? (source : QuotationSource) (id : String) : Outcome (Option Value) :=
  match source with
  | records entries =>
    let v := entries.get id
    if !v.isTruthy then .ok none
    else match v with
      | .obj fs => .ok (some (.obj (Fields.put fs "id" ((Fields.get? fs "id").getD (.str id)))))
      | v => .error (.notMapping v.kindName)
  | files directory =>
    match fileOf? directory id with
    | .error e => .error e
    | .ok none => .ok none
    | .ok (some f) => do
      let v ← Yaml.read f.text
      if v.isObject then return some (v.putNew "id" (.str id))
        else throw (.recordIsNoMapping f.path)

/-- Keeps a record under its id; files take no records. -/
def add (source : QuotationSource) (record : Fields) : Outcome QuotationSource :=
  match source, record.get? "id" with
  | records entries, some id => do return records (entries.put (← id.text) (.obj record))
  | records _, none => .error (.missingEntry "id")
  | files directory, _ => .ok (files directory)

def context? (source : QuotationSource) (today : Date) (id : String) :
    Outcome (Option RenderContext) := do
  match ← source.record? id with
  | some record => return some (← contextOfRecord ((record.fields?).getD []) [] today)
  | none => return none

/-- The context of the quotation with an id, or of the data given in its place. -/
def contextOf (source : QuotationSource) (today : Date) (id : String) (data : Fields) :
    Outcome RenderContext := do
  if id = "" then contextOfRecord data [] today
  else match ← source.context? today id with
    | some c => return c
    | none => throw (.unknownQuotation id)

end QuotationSource

end QuotationPress
