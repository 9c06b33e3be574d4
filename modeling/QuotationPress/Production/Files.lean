import QuotationPress.Pdf.Filename
import QuotationPress.Pdf.Layers
import QuotationPress.Pdf.Producer
import QuotationPress.Production.Rendering
import QuotationPress.Text.Base64

/-!
# Files on request

`Desk.produce` makes one file; `Desk.produceBatch` makes one for each item of a batch and reports an
item that cannot be prepared, or whose file cannot be made, without holding up the others.
-/

namespace QuotationPress

/-- The file of one document and the name to save it under. -/
structure ProducedFile where
  pdf : Bytes
  filename : String

/-- What became of one item of a batch. -/
structure BatchItemResult where
  index : Nat
  success : Bool
  filename : Option String
  size : Nat
  content : Option String
  error : Option String
  deriving Repr, DecidableEq

structure BatchReport where
  total : Nat
  successful : Nat
  failed : Nat
  results : List BatchItemResult
  deriving Repr, DecidableEq

def BatchItemResult.listing (r : BatchItemResult) : Value :=
  .obj [("index", .int r.index), ("success", .bool r.success), ("filename", .ofText? r.filename),
    ("size", .int r.size), ("content_base64", .ofText? r.content), ("error", .ofText? r.error)]

def BatchReport.fields (r : BatchReport) : Fields :=
  [("total", .int r.total), ("successful", .int r.successful), ("failed", .int r.failed),
    ("results", .list (r.results.map BatchItemResult.listing))]

def BatchReport.listing (r : BatchReport) : Value := .obj r.fields

/-- Whether a failure to prepare an item stays with the item. Numbers and dates beyond all bounds,
files that are not well formed or too deeply nested, and names that no file can have, stop the whole
batch. -/
def Failure.staysWithItem : Failure → Bool
  | amountTooLong | unordered | numberTooLarge | dateOutOfRange => false
  | unreadableFile _ | nestedTooDeep => false
  | duplicateRow | storeUnavailable | production _ | fileNameTooLong _ => false
  | _ => true

namespace Desk

variable {σ : Type}

/-- The number of the quotation in a context; `fallback` where there is none. -/
def numberText (c : RenderContext) (fallback : String) : Outcome String :=
  ((c.quotation.get "number").orElse (.str fallback)).text

/-- The job of a request. Its options are laid over those of the batch, and these over the settings
of the template. -/
def jobOf (r : FileRequest) (t : Template) (html number : String) (batchOptions : Fields) :
    Outcome Job := do
  let filename := suggestedFilename number r.filename
  let options ← readLayeredOptions t [batchOptions, r.options]
  let watermark ← readWatermark r.watermark
  let headerFooter ← readHeaderFooter r.headerFooter
  return {
    source := .ok html
    filename := some filename
    options := some options
    watermark
    headerFooter }

/-- Renders what a request asks for and sets up the job. -/
def prepare (d : Desk) (r : FileRequest) (fallbackNumber : String) (batchOptions : Fields) :
    Outcome Job := do
  let c ← d.source.contextOf d.today (r.quotationId.getD "") (r.data.getD [])
  let t ← d.store.resolve (r.templateId.getD "") ""
  let html ← renderPage t c false
  jobOf r t html (← numberText c fallbackNumber) batchOptions

def produce (d : Desk) (p : Producer) (engine : PdfEngine σ) (r : FileRequest) (s : σ) :
    Outcome ProducedFile × σ :=
  match d.prepare r "" [] with
  | .error f => (.error f, s)
  | .ok job =>
    match p.produce engine (job.source.toOption.getD "") job s with
    | (.ok pdf, s) => (.ok ⟨pdf, job.filename.getD (suggestedFilename "" none)⟩, s)
    | (.error reason, s) => (.error (.production reason), s)

/-! ### Batches -/

/-- The name that an item asks for, or the failure to read it as a text. -/
def wishedName : Value → Outcome (Option String)
  | .obj fs => ((Lenient.optional Lenient.text (Fields.get fs "filename")).under "filename").outcome
      "BatchItemResult"
  | _ => .ok none

/-- An item ready to be made, or with the reason why it is not. -/
structure PreparedItem where
  job : Job
  /-- Whether the name of the file, which the report will show, is a text. -/
  nameFits : Outcome Unit := .ok ()

/-- What the report says of a failure. The name of a missing entry is quoted there. -/
def reasonOf : Failure → String
  | .missingEntry key => Text.quoted key
  | f => f.message

/-- An item whose preparation has failed. -/
def failedItem (item : Value) (f : Failure) : PreparedItem where
  job := { source := .error (reasonOf f), filename := (wishedName item).toOption.join }
  nameFits := (wishedName item).map fun _ => ()

/-- Prepares one item; only a failure that does not stay with it is a failure here. -/
def prepareItem (d : Desk) (batchOptions : Fields) (index : Nat) (item : Value) :
    Outcome PreparedItem :=
  match (do
      d.prepare (← FileRequest.read? item) (String.ofList (numeral (index + 1))) batchOptions) with
  | .ok job => .ok { job }
  | .error f => if f.staysWithItem then .ok (failedItem item f) else .error f

def prepareItems (d : Desk) (batchOptions : Fields) : Nat → List Value → Outcome (List PreparedItem)
  | _, [] => .ok []
  | index, item :: rest => do
    return (← d.prepareItem batchOptions index item) ::
      (← d.prepareItems batchOptions (index + 1) rest)

def resultOf (includeContent : Bool) (r : JobResult) : BatchItemResult where
  index := r.index
  success := r.success
  filename := r.filename
  size := r.size
  content :=
    if includeContent then (r.pdf?.filter fun pdf => !pdf.isEmpty).map Text.base64 else none
  error := r.error?

def reportOf (includeContent : Bool) (s : BatchSummary) : BatchReport where
  total := s.total
  successful := s.successful
  failed := s.failed
  results := s.results.map (resultOf includeContent)

/-- Prepares all items, one after the other, and makes their files. -/
def produceBatch (d : Desk) (p : Producer) (engine : PdfEngine σ) (r : BatchRequest) (s : σ) :
    Outcome BatchReport × σ :=
  match d.prepareItems r.options 0 r.items with
  | .error f => (.error f, s)
  | .ok items =>
    let (summary, s) := p.batch engine (items.map PreparedItem.job) s
    match items.mapM PreparedItem.nameFits with
    | .ok _ => (.ok (reportOf r.includeContent summary), s)
    | .error f => (.error f, s)

end Desk

end QuotationPress
