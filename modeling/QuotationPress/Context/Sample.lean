import QuotationPress.Context.RenderContext

/-!
# Sample data

The context of a preview of a template that no quotation is attached to.
-/

namespace QuotationPress

private def texts (entries : List (String × String)) : Fields :=
  entries.map fun e => (e.1, .str e.2)

def sampleItems : List Fields :=
  [[("no", .int 1), ("description", .str "Tower Crane Rental - Potain MC 175"),
    ("capacity", .str "175MT"), ("jobType", .str "monthly"), ("quantity", .int 1),
    ("duration", .str "30 days"), ("rate", .int 25000), ("rental", .int 750000),
    ("mobilization", .int 50000), ("demobilization", .int 50000), ("amount", .int 850000)],
   [("no", .int 2), ("description", .str "Mobile Crane - Liebherr LTM 1090"),
    ("capacity", .str "90MT"), ("jobType", .str "daily"), ("quantity", .int 1),
    ("duration", .str "5 days"), ("rate", .int 15000), ("rental", .int 75000),
    ("mobilization", .int 10000), ("demobilization", .int 10000), ("amount", .int 95000)]]

/-- The sample quotation is valid for thirty days from today. -/
def sampleContext (today : Date) : Outcome RenderContext :=
  match today.addDays? 30 with
  | none => .error .dateOutOfRange
  | some validUntil => .ok {
      company := texts
        [("name", "ASP Cranes Pvt. Ltd."), ("address", "Industrial Area, Pune, Maharashtra 411019"),
          ("phone", "+91 99999 88888"), ("email", "sales@aspcranes.com"),
          ("website", "www.aspcranes.com")]
      client := texts
        [("name", "John Doe"), ("company", "Construction Corp."),
          ("address", "Mumbai, Maharashtra"),
          ("phone", "+91 98765 43210"), ("email", "john@constructioncorp.com")]
      quotation := texts
        [("id", "sample"), ("number", "QUO-2025-001"), ("date", today.longForm),
          ("validUntil", validUntil.longForm), ("machineType", "Tower Crane"),
          ("duration", "30 days"), ("paymentTerms", "50% advance, balance on completion"),
          ("terms", "This quotation is valid for 30 days. All rates are inclusive of GST.")]
      items := sampleItems
      totals := [("subtotal", .int 825000), ("discount", .int 25000), ("tax", .int 144000),
        ("total", .int 944000)]
      tax := [("rate", .int 18)] }

end QuotationPress
