import QuotationPress.Validation.Lenient

/-!
# What can be asked of the press

There are three requests: a preview of a template, one file, and a batch of files. Each request is
read from loosely typed data.
-/

namespace QuotationPress

open Checked (optional required)

/-- A preview of a template that is not stored, of a stored one, or of the default. Sample data
stand in for missing data. -/
structure PreviewRequest where
  template : Option Fields := none
  templateId : Option String := none
  data : Option Fields := none

namespace PreviewRequest

def ofFields (fs : Fields) : Checked PreviewRequest :=
  mk <$> optional .plain fs "template" none (Lenient.optional Lenient.object)
    <*> optional .plain fs "template_id" none (Lenient.optional Lenient.text)
    <*> optional .plain fs "data" none (Lenient.optional Lenient.object)

def check (v : Value) : Checked PreviewRequest :=
  (Lenient.record "PreviewRequest" v).andThen ofFields

def read? (v : Value) : Outcome PreviewRequest := (check v).outcome "PreviewRequest"

end PreviewRequest

/-- One document as a file. `watermark` and `headerFooter` are null, a flag or an object. -/
structure FileRequest where
  templateId : Option String := none
  quotationId : Option String := none
  /-- A record that is used when there is no quotation id. -/
  data : Option Fields := none
  options : Fields := []
  watermark : Value := .null
  headerFooter : Value := .null
  filename : Option String := none

namespace FileRequest

/-- Null, an object or a flag. -/
def switch : Value → Checked Value
  | .null => .good .null
  | .obj fs => .good (.obj fs)
  | v => match Lenient.flag v with
    | .good b => .good (.bool b)
    | .bad issues => .bad (⟨["dict[str,any]"], .notObject⟩ :: issues.map (Issue.under "bool"))

def hasSource (r : FileRequest) : Bool :=
  (r.quotationId.any fun id => id ≠ "") || r.data.isSome

def withSource (r : FileRequest) : Checked FileRequest :=
  if r.hasSource then .good r else .fault (.refused "quotation_id or data is required")

def ofFields (fs : Fields) : Checked FileRequest :=
  (mk <$> optional .plain fs "template_id" none (Lenient.optional Lenient.text)
    <*> optional .plain fs "quotation_id" none (Lenient.optional Lenient.text)
    <*> optional .plain fs "data" none (Lenient.optional Lenient.object)
    <*> optional .plain fs "options" [] Lenient.object
    <*> optional .plain fs "watermark" .null switch
    <*> optional .plain fs "header_footer" .null switch
    <*> optional .plain fs "filename" none (Lenient.optional Lenient.text)).andThen withSource

def check (v : Value) : Checked FileRequest := (Lenient.record "PdfRequest" v).andThen ofFields

def read? (v : Value) : Outcome FileRequest := (check v).outcome "PdfRequest"

end FileRequest

/-- Several documents. Items are not looked at here, so that one that does not fit fails alone. -/
structure BatchRequest where
  items : List Value
  options : Fields := []
  includeContent : Bool := true

namespace BatchRequest

def someItems (v : Value) : Checked (List Value) :=
  (Lenient.list v).andThen fun xs => if xs.isEmpty then .fault (.tooFewItems 1) else .good xs

def ofFields (fs : Fields) : Checked BatchRequest :=
  mk <$> required .plain fs "items" someItems
    <*> optional .plain fs "options" [] Lenient.object
    <*> optional .plain fs "include_content" true Lenient.flag

def check (v : Value) : Checked BatchRequest := (Lenient.record "BatchRequest" v).andThen ofFields

def read? (v : Value) : Outcome BatchRequest := (check v).outcome "BatchRequest"

end BatchRequest

end QuotationPress
