import QuotationPress.Context.Sample
import QuotationPress.Page.Document
import QuotationPress.Production.Request
import QuotationPress.Quotation.Source
import QuotationPress.Store.Query

/-!
# From the store and the quotations to pages

`Desk.render` renders a quotation or given data with a template of the store, `Desk.preview` renders
what is not stored yet.
-/

namespace QuotationPress

/-- What documents are made from: the template store, the quotations, and today's date. -/
structure Desk where
  store : Store := {}
  source : QuotationSource := .records []
  today : Date

structure RenderedPage where
  templateId : Option String
  templateName : String
  html : String
  deriving Repr, DecidableEq

/-- The page that a template makes of a context. -/
def RenderedPage.of (t : Template) (c : RenderContext) (preview : Bool) : Outcome RenderedPage := do
  return { templateId := t.id, templateName := t.name, html := ← renderPage t c preview }

namespace Desk

/-- Renders a quotation, or the data given in place of an id. Gives the context along with the
page. -/
def render (d : Desk) (quotationId : String) (data : Fields) (templateId : String)
    (preview : Bool) :
    Outcome (RenderedPage × RenderContext) := do
  let c ← d.source.contextOf d.today quotationId data
  let t ← d.store.resolve templateId ""
  return (← RenderedPage.of t c preview, c)

/-- The template of a preview: the one in the request, else one of the store. -/
def previewTemplate (d : Desk) (r : PreviewRequest) : Outcome Template :=
  match r.template with
  | some fs => Template.read? (.obj fs)
  | none => d.store.resolve (r.templateId.getD "") ""

/-- The context of a preview: the one in the request, else sample data. -/
def previewContext (d : Desk) (r : PreviewRequest) : Outcome RenderContext :=
  match r.data with
  | some fs => RenderContext.read? (.obj fs)
  | none => sampleContext d.today

def preview (d : Desk) (r : PreviewRequest) : Outcome RenderedPage := do
  let t ← d.previewTemplate r
  RenderedPage.of t (← d.previewContext r) true

end Desk

end QuotationPress
