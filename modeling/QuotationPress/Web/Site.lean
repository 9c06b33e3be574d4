import QuotationPress.Production.Files
import QuotationPress.Store.Sync
import QuotationPress.Value.JsonForm
import QuotationPress.Web.Message
import QuotationPress.Web.Route

/-!
# The web site of the press

`Site.answer` takes a request and gives the response, the site as it is afterwards, and the state of
the PDF engine; `Site.open` is what happens before the first request.
-/

namespace QuotationPress

structure Site where
  desk : Desk
  /-- The files that define templates. -/
  definitions : List TextFile := []
  producer : Producer := {}

namespace Lenient

/-- A whole number of `least` to `most`. -/
def wholeBetween (least most : Int) (v : Value) : Checked Int :=
  (wholeFrom least v).andThen fun i => if most < i then .fault (.above most) else .good i

end Lenient

namespace Site

open WebResponse (ok notFound refused ofOutcome)

def withStore (site : Site) (s : Store) : Site :=
  { site with desk := { site.desk with store := s } }

/-- Brings the store in line with the definitions; a failure to do so is no obstacle. -/
def «open» (site : Site) : Site := site.withStore (site.desk.store.sync site.definitions).2

/-! ### Contents -/

def templateValue (t : Template) : Value := t.listing.jsonForm

def summaryValue (t : Template) : Value :=
  (Value.obj [("id", .ofText? t.id), ("name", .str t.name), ("description", .str t.description),
    ("theme", .str t.theme), ("category", .str t.category), ("scope", .str t.scope),
    ("is_default", .bool t.isDefault), ("is_active", .bool t.isActive), ("version", .int t.version),
    ("element_count", .int t.elements.length),
    ("updated_at", (t.updatedAt.map Value.moment).getD .null)]).jsonForm

def pageValue (p : RenderedPage) : Value :=
  .obj [("html", .str p.html), ("template_id", .ofText? p.templateId),
    ("template_name", .str p.templateName)]

/-- A page as such, or with what it was made from. -/
def pageResponse (format : String) (p : RenderedPage) : WebResponse :=
  if format = "json" then ok (pageValue p) else ⟨200, .html p.html⟩

def reportValue (r : SyncReport) : Value :=
  let message :=
    toString r.created.length ++ " created, " ++ toString r.updated.length ++ " updated"
  .obj [("created", .list (r.created.map Value.str)), ("updated", .list (r.updated.map Value.str)),
    ("message", .str message)]

def conflictValue (expected actual : Int) : Value :=
  .obj [("detail", .str "Template was modified by someone else"),
    ("expected_version", .int expected),
    ("actual_version", .int actual)]

def templateNotFound : WebResponse := notFound "Template not found"

/-- The template of a row, or word that there is none. -/
def rowResponse (status : Nat) : Option TemplateRow → WebResponse
  | some r => ofOutcome (fun t => ⟨status, .json (templateValue t)⟩) r.template
  | none => templateNotFound

def fileResponse (f : ProducedFile) : WebResponse := ⟨200, .file f.pdf f.filename⟩

/-- The default always has an id. -/
def withId (t : Template) : Template := { t with id := some (filledText (t.id.getD "") "default") }

/-! ### Parameters -/

/-- Answers what was asked for, or gives every reason to refuse it. -/
def whenGood {α β : Type} (x : Checked α) (refuse : WebResponse → β) (act : α → β) : β :=
  match x with
  | .good a => act a
  | .bad issues => refuse (refused true issues)

def formatOf (r : WebRequest) : Checked String :=
  r.parameter "format" "html" (Lenient.choice ["html", "json"])

def inactiveToo (r : WebRequest) : Checked Bool := r.parameter "include_inactive" false Lenient.flag

def filterOf (r : WebRequest) : Checked TemplateFilter :=
  (fun withInactive (limit offset : Int) =>
    { category := r.textParameter "category", scope := r.textParameter "scope"
      search := r.textParameter "search", withInactive, limit := some limit, offset })
    <$> inactiveToo r
    <*> r.parameter "limit" 100 (Lenient.wholeBetween 1 500)
    <*> r.parameter "offset" 0 (Lenient.wholeFrom 0)

/-- The wish for the name of a copy. -/
def copyName (r : WebRequest) : Checked (Option String) :=
  r.optionalBody (.good none) fun fs =>
    Checked.optional .plain fs "name" none (Lenient.optional Lenient.name)

/-! ### Answers -/

/-- Answers to requests that only read. -/
def answerRead (site : Site) (r : WebRequest) : Route → WebResponse
  | .health =>
    ok (.obj [("status", .str "ok"), ("service", .str "quotedocs"),
      ("env", .str Settings.environment)])
  | .listTemplates => whenGood (filterOf r) id fun f =>
    ofOutcome (fun ts => ok (.list (ts.map summaryValue))) (site.desk.store.list f)
  | .readDefault =>
    ok (templateValue (withId (site.desk.store.defaultTemplate (r.textParameter "scope"))))
  | .previewTemplate =>
    let asked :=
      (fun format body => (format, body)) <$> formatOf r <*> r.bodyOf PreviewRequest.ofFields
    whenGood asked id fun (format, body) =>
      match site.desk.preview body with
      | .ok p => pageResponse format p
      | .error (.invalid _ issues) => refused false issues
      | .error f => WebResponse.ofFailure f
  | .readTemplate id => whenGood (inactiveToo r) (fun x => x) fun withInactive =>
    ofOutcome (fun t => (t.map fun t => ok (templateValue t)).getD templateNotFound)
      (site.desk.store.get? id withInactive)
  | .previewQuotation id => whenGood (formatOf r) (fun x => x) fun format =>
    ofOutcome (fun p => pageResponse format p.1)
      (site.desk.render id [] (r.textParameter "template_id") true)
  | _ => notFound "Not Found"

/-- Answers to requests that change the store. -/
def answerWrite (site : Site) (r : WebRequest) (route : Route) : WebResponse × Store :=
  let s := site.desk.store
  let refuse (x : WebResponse) : WebResponse × Store := (x, s)
  match route with
  | .createTemplate => whenGood (r.bodyOf TemplateDraft.ofFields) refuse fun d =>
    let (row, s) := s.create d
    (ofOutcome (fun row => rowResponse 201 (some row)) row, s)
  | .replaceTemplate id => whenGood (r.bodyOf TemplateReplacement.ofFields) refuse fun d =>
    let (row, s) := s.replace id d
    (ofOutcome (rowResponse 200) row, s)
  | .patchTemplate id => whenGood (r.bodyOf TemplatePatch.ofFields) refuse fun p =>
    let (patched, s) := s.patch id p
    (ofOutcome (fun
      | .missing => templateNotFound
      | .conflict expected actual => ⟨409, .json (conflictValue expected actual)⟩
      | .updated row => rowResponse 200 (some row)) patched, s)
  | .deleteTemplate id =>
    let (done, s) := s.deactivate id
    (if done then ⟨204, .none⟩ else templateNotFound, s)
  | .setDefault id =>
    let (row, s) := s.setDefault id
    (rowResponse 200 row, s)
  | .duplicateTemplate id => whenGood (copyName r) refuse fun name =>
    let (row, s) := s.duplicate id name
    (ofOutcome (rowResponse 201) row, s)
  | .syncTemplates =>
    let (report, s) := s.sync site.definitions
    (ofOutcome (fun report => ok (reportValue report)) report, s)
  | _ => refuse (site.answerRead r route)

variable {σ : Type}

/-- Answers to requests for files. -/
def answerFile (site : Site) (engine : PdfEngine σ) (r : WebRequest) (route : Route) (e : σ) :
    Option (WebResponse × σ) :=
  let refuse (x : WebResponse) : WebResponse × σ := (x, e)
  let fileOf (request : FileRequest) : WebResponse × σ :=
    let (file, e) := site.desk.produce site.producer engine request e
    (ofOutcome fileResponse file, e)
  match route with
  | .quotationFile id => some (fileOf
      { quotationId := some id, templateId := r.parameter? "template_id" })
  | .produceFile => some (whenGood (r.bodyOf FileRequest.ofFields) refuse fileOf)
  | .produceBatch => some (whenGood (r.bodyOf BatchRequest.ofFields) refuse fun request =>
      let (report, e) := site.desk.produceBatch site.producer engine request e
      (ofOutcome (fun report => ok report.listing) report, e))
  | _ => none

/-- Answers one request. -/
def answer (site : Site) (engine : PdfEngine σ) (r : WebRequest) (e : σ) : WebResponse × Site × σ :=
  match Route.find r.method r.path with
  | .nothing => ((notFound "Not Found").fitFor r, site, e)
  | .methodNotAllowed =>
    ((WebResponse.detail 405 (.str "Method Not Allowed")).fitFor r, site, e)
  | .elsewhere path => (⟨307, .elsewhere path⟩, site, e)
  | .route route =>
    match site.answerFile engine r route e with
    | some (response, e) => (response, site, e)
    | none =>
      let (response, s) := site.answerWrite r route
      (response, site.withStore s, e)

end Site

end QuotationPress
