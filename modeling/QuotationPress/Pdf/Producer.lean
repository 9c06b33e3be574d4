import QuotationPress.Pdf.Engine
import QuotationPress.Pdf.Preparation

/-!
# From pages to PDF files

`Producer.produce` makes one file, `Producer.batch` one for each job of a list; either starts an
engine, uses it and cleans it up, whatever happens in between. In a batch a job that fails is
reported and leaves the others alone.
-/

namespace QuotationPress

structure Producer where
  /-- Seconds that one page may take, a whole or a floating point number. -/
  timeout : Value := .float Settings.pageTimeout
  /-- How many jobs of a batch run at the same time. -/
  concurrency : Nat := Settings.batchConcurrency
  companyName : String := Settings.companyName

/-- One document to be made: its page, or the reason why there is none. -/
structure Job where
  source : Except String String
  filename : Option String := none
  options : Option PdfOptions := none
  watermark : Option WatermarkOptions := none
  headerFooter : Option HeaderFooterOptions := none

/-- What became of one job of a batch. -/
structure JobResult where
  index : Nat
  filename : Option String
  /-- The file, or the message of the failure. -/
  file : Except String Bytes

namespace JobResult

def success (r : JobResult) : Bool := r.file.isOk

def pdf? (r : JobResult) : Option Bytes := r.file.toOption

def size (r : JobResult) : Nat := (r.pdf?.map List.length).getD 0

def error? (r : JobResult) : Option String :=
  match r.file with
  | .ok _ => none
  | .error e => some e

end JobResult

structure BatchSummary where
  results : List JobResult

namespace BatchSummary

def total (s : BatchSummary) : Nat := s.results.length

def successful (s : BatchSummary) : Nat := s.results.countP JobResult.success

def failed (s : BatchSummary) : Nat := s.total - s.successful

end BatchSummary

/-! ### Seconds -/

/-- `0.5` for half a second, `30` for thirty. -/
def secondsText : Value → String
  | .int i => String.ofList (Binary64.ofInt i).lengthText
  | .float x => String.ofList x.lengthText
  | .bool b => if b then "1" else "0"
  | _ => ""

/-- Below zero and zero itself: no time at all. -/
def isNoTime : Value → Bool
  | .int i => i ≤ 0
  | .float x => !x.isNan && !x.isPositive
  | _ => false

/-- Why a value cannot limit the time of a page: it is no number, or one that no clock can count
to. -/
def notSeconds? : Value → Option String
  | .int i => if (Binary64.ofInt i).isFinite then none else some "int too large to convert to float"
  | .float _ => none
  | .bool _ => none
  | v => some ("'<=' not supported between instances of '" ++ v.kindName ++ "' and 'int'")

namespace Producer

/-- A producer with the settings that count as given. -/
def ofSettings (timeout : Value) (concurrency : Int) (companyName : String) : Producer where
  timeout := timeout.orElse (.float Settings.pageTimeout)
  concurrency := if concurrency = 0 then Settings.batchConcurrency else max 1 concurrency.toNat
  companyName := if companyName = "" then Settings.companyName else companyName

/-- The prepared page and the options it is made with. -/
def prepare (p : Producer) (html : String) (job : Job) : String × PdfOptions :=
  let options := job.options.getD {}
  let options := match job.headerFooter with
    | some b => options.withBands p.companyName b
    | none => options
  let html := match job.watermark with
    | some w => addWatermark w html
    | none => html
  (insertPrintCss options html, options)

/-- The time limit of one page: its own unless that is zero. -/
def timeoutOf (p : Producer) (o : PdfOptions) : Value :=
  match o.timeoutSeconds with
  | some x => if x.isZero then p.timeout else .float x
  | none => p.timeout

def timedOut (timeout : Value) : String :=
  "PDF generation timed out after " ++ secondsText timeout ++ "s"

def crashed (reason : String) : String := "PDF generation failed: " ++ reason

variable {σ : Type}

/-- A page that gets no time, or none that can be counted, is never shown to the engine. -/
def convert (p : Producer) (engine : PdfEngine σ) (html : String) (o : PdfOptions) (s : σ) :
    Except String Bytes × σ :=
  let timeout := p.timeoutOf o
  if isNoTime timeout then (.error (timedOut timeout), s)
  else match notSeconds? timeout with
  | some reason => (.error (crashed reason), s)
  | none => match engine.convert html o s with
    | (.done pdf, s) => (.ok pdf, s)
    | (.neverEnds, s) => (.error (timedOut timeout), s)
    | (.rejected reason, s) => (.error reason, s)
    | (.crashed reason, s) => (.error (crashed reason), s)

/-- Starts the engine, uses it, and cleans up in any case; a failure to clean up changes nothing. -/
def session {α : Type} (engine : PdfEngine σ) (use : σ → Except String α × σ) (s : σ) :
    Except String α × σ :=
  let (result, s) := match engine.start s with
    | (.ok _, s) => use s
    | (.error reason, s) => (.error ("PDF engine failed to start: " ++ reason), s)
  (result, (engine.cleanup s).2)

/-- Makes the file of one page, with the settings of a job. -/
def produce (p : Producer) (engine : PdfEngine σ) (html : String) (job : Job) (s : σ) :
    Except String Bytes × σ :=
  let (prepared, options) := p.prepare html job
  session engine (p.convert engine prepared options) s

/-- One job of a batch, the engine running. -/
def runJob (p : Producer) (engine : PdfEngine σ) (job : Job) (s : σ) : Except String Bytes × σ :=
  match job.source with
  | .error reason => (.error reason, s)
  | .ok html =>
    let (prepared, options) := p.prepare html job
    p.convert engine prepared options s

def runJobs (p : Producer) (engine : PdfEngine σ) : Nat → List Job → σ → List JobResult × σ
  | _, [], s => ([], s)
  | index, job :: rest, s =>
    let (file, s) := p.runJob engine job s
    let (results, s) := p.runJobs engine (index + 1) rest s
    (⟨index, job.filename, file⟩ :: results, s)

/-- Every job with the same failure. -/
def allFailed (reason : String) : Nat → List Job → List JobResult
  | _, [] => []
  | index, job :: rest => ⟨index, job.filename, .error reason⟩ :: allFailed reason (index + 1) rest

/-- An empty batch starts no engine. -/
def batch (p : Producer) (engine : PdfEngine σ) (jobs : List Job) (s : σ) : BatchSummary × σ :=
  if jobs.isEmpty then (⟨[]⟩, s)
  else
    match session engine (fun s => let (rs, s) := p.runJobs engine 0 jobs s; (.ok rs, s)) s with
    | (.ok results, s) => (⟨results⟩, s)
    | (.error reason, s) => (⟨allFailed reason 0 jobs⟩, s)

end Producer

end QuotationPress
