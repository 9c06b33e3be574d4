import QuotationPress.Value.Basic

/-!
# The settings of the house that issues the quotations

They say who the house is, in which currency it deals, and how it makes pages.
-/

namespace QuotationPress.Settings

def companyName : String := "ASP Cranes Pvt. Ltd."

/-- The identity of the company, merged into every context. -/
def company : Fields :=
  [("name", .str companyName), ("address", .str "Industrial Area, Pune, Maharashtra 411019"),
    ("phone", .str "+91 99999 88888"), ("email", .str "sales@aspcranes.com"),
    ("website", .str "www.aspcranes.com")]

def currencySymbol : String := "₹"

/-- Days for which a quotation is valid when it does not say so. -/
def validityDays : Nat := 15

def defaultScope : String := "quotation"

def environment : String := "development"

def browserArguments : List String :=
  ["--no-sandbox", "--disable-setuid-sandbox", "--disable-dev-shm-usage", "--disable-gpu"]

def browserHeadless : Bool := true

/-- How many documents of a batch are made at the same time. -/
def batchConcurrency : Nat := 4

/-- Seconds that one document may take. -/
def pageTimeout : Binary64 := Binary64.ofInt 30

end QuotationPress.Settings
