import QuotationPress.Pdf.Options
import QuotationPress.Template.Basic

/-!
# Options in layers

The page settings of the template are at the bottom, and the layers of a request over them. A later
layer wins entry by entry, and its margins win side by side.
-/

namespace QuotationPress

/-- What the settings of a template say about the page. -/
def pageLayer (settings : Fields) : Fields :=
  let size := settings.get "pageSize"
  let orientation := settings.get "orientation"
  let margins := settings.get "margins"
  (if size.isTruthy then [("format", size)] else [])
    ++ (if orientation.isTruthy then [("orientation", orientation)] else [])
    ++ (if margins.isObject then [("margins", margins)] else [])

/-- Margins on both sides are joined before the layer is laid over. -/
def overlayLayer (lower upper : Fields) : Fields :=
  match (lower.get "margins").fields?, (upper.get "margins").fields? with
  | some below, some above =>
    Fields.overlay lower (upper.put "margins" (.obj (Fields.overlay below above)))
  | _, _ => Fields.overlay lower upper

def layeredOptions (settings : Fields) (layers : List Fields) : Fields :=
  layers.foldl overlayLayer (pageLayer settings)

def readLayeredOptions (t : Template) (layers : List Fields) : Outcome PdfOptions :=
  PdfOptions.read? (.obj (layeredOptions t.settings layers))

end QuotationPress
