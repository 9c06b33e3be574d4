import QuotationPress.Template.Builder

/-!
# The templates that are always there

`defaultTemplate?` builds the standard layout, `emergencyTemplate` is the least one, and
`fallbackTemplate` takes the second where the first could not be built.
-/

namespace QuotationPress

def defaultTemplateMeta : Fields :=
  [("id", .str "default"), ("name", .str "Default Quotation Template"),
    ("description", .str "Built-in layout used when no template is configured"),
    ("theme", .str "MODERN")]

def defaultKinds : List ElementKind :=
  [.header, .companyInfo, .clientInfo, .quotationInfo, .itemsTable, .totals, .terms, .signature]

def addKinds (b : Builder) : List ElementKind → Outcome Builder
  | [] => .ok b
  | k :: rest => do
    addKinds (← b.add { type := .str k.tag, id := some ("default-" ++ k.tag) }) rest

def defaultTemplate? : Outcome Template := do
  let b ← Builder.create defaultTemplateMeta
  return (← addKinds b defaultKinds).template

def emergencyTemplate : Template where
  id := some "emergency"
  name := "Emergency Template"
  description := "Minimal layout"
  elements :=
    [{ id := "emergency-header", type := "header",
       content := .obj [("title", .str (slot "company.name")), ("subtitle", .str "QUOTATION")] },
     { id := "emergency-client", type := "client_info", content := .obj [] },
     { id := "emergency-items", type := "items_table", content := .obj [] },
     { id := "emergency-totals", type := "totals", content := .obj [] }]
  settings := defaultSettings

/-- The template that was built, or the emergency one. -/
def orEmergency : Outcome Template → Template
  | .ok t => t
  | .error _ => emergencyTemplate

def fallbackTemplate : Template := orEmergency defaultTemplate?

end QuotationPress
