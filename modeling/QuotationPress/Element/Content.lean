import QuotationPress.Element.Kind

/-!
# What the elements of a template say

There is one structure for each shape of content; the texts in them may hold placeholders.
`Content.standard` is the content of an element that says nothing of its own.
-/

namespace QuotationPress

/-- A placeholder for the value at a dotted path. -/
def slot (path : String) : String := "\x7b\x7b" ++ path ++ "\x7d\x7d"

structure InfoField where
  label : Option String := none
  value : String := ""
  deriving Repr, DecidableEq, Inhabited

/-- A line of a section: a labelled value, or a text. -/
inductive InfoLine where
  | field (f : InfoField)
  | text (s : String)
  deriving Repr, DecidableEq

structure Column where
  key : String := ""
  label : String := ""
  width : Option String := none
  alignment : String := "left"
  /-- One of `currency`, `number`, `date` and `text`. -/
  format : Option String := none
  /-- The text of a cell, placeholders of the row included. -/
  value : Option String := none
  deriving Repr, DecidableEq, Inhabited

structure TotalsLine where
  label : String
  value : String := ""
  showIf : String := "always"
  emphasized : Bool := false
  deriving Repr, DecidableEq, Inhabited

structure HeaderContent where
  title : String := slot "company.name"
  subtitle : Option String := some "QUOTATION"
  showDate : Bool := false
  showQuotationNumber : Bool := false
  alignment : String := "center"
  deriving Repr, DecidableEq

structure InfoContent where
  title : Option String := none
  fields : List InfoLine := []
  layout : String := "vertical"
  alignment : String := "left"
  deriving Repr, DecidableEq

/-- The columns of a table: listed one by one, or the standard ones with flags for each key. -/
inductive Columns where
  | listed (columns : List Column)
  | flags (shown : List (String × Bool))
  deriving Repr, DecidableEq

structure TableContent where
  title : Option String := none
  rows : List (List Value) := []
  columns : Columns := .listed []
  showHeader : Bool := true
  columnWidths : List (Option String) := []
  alternateRows : Bool := true

structure TotalsContent where
  title : Option String := none
  fields : List TotalsLine :=
    [{ label := "Subtotal", value := slot "totals.subtotal" },
     { label := "Discount", value := slot "totals.discount", showIf := "hasDiscount" },
     { label := "Tax", value := slot "totals.tax", showIf := "hasTax" },
     { label := "Total", value := slot "totals.total", emphasized := true }]
  alignment : String := "right"
  deriving Repr, DecidableEq

structure TermsContent where
  title : String := "Terms & Conditions"
  text : String := slot "quotation.terms"
  defaultText : String :=
    "Please review the terms and conditions before accepting this quotation."
  showTitle : Bool := true
  deriving Repr, DecidableEq

structure SignatureContent where
  title : String := "Authorized Signature"
  name : String := "For " ++ slot "company.name"
  showName : Bool := true
  showDate : Bool := true
  signatureLine : Bool := true
  alignment : String := "right"
  deriving Repr, DecidableEq

structure TextContent where
  title : Option String := none
  text : String := ""
  deriving Repr, DecidableEq

inductive Content where
  | header (c : HeaderContent)
  | info (c : InfoContent)
  | table (c : TableContent)
  | totals (c : TotalsContent)
  | terms (c : TermsContent)
  | signature (c : SignatureContent)
  | text (c : TextContent)

namespace InfoContent

def company : InfoContent where
  fields :=
    [.text (slot "company.name"), .text (slot "company.address"), .text (slot "company.phone"),
     .text (slot "company.email"), .text (slot "company.website")]

def client : InfoContent where
  title := some "Bill To:"
  fields :=
    [.text (slot "client.name"), .text (slot "client.company"), .text (slot "client.address"),
     .text (slot "client.phone"), .text (slot "client.email")]

def quotation : InfoContent where
  fields :=
    [.field { label := some "Quotation #", value := slot "quotation.number" },
     .field { label := some "Date", value := slot "quotation.date" },
     .field { label := some "Valid Until", value := slot "quotation.validUntil" }]
  layout := "table"
  alignment := "right"

end InfoContent

namespace ElementKind

def standardContent : ElementKind → Content
  | header => .header {}
  | companyInfo => .info .company
  | clientInfo => .info .client
  | quotationInfo => .info .quotation
  | itemsTable => .table {}
  | table => .table {}
  | totals => .totals {}
  | terms => .terms {}
  | signature => .signature {}
  | text => .text {}

/-- The name of the content model of a kind in messages. -/
def modelName : ElementKind → String
  | header => "HeaderContent"
  | companyInfo => "CompanyInfoContent"
  | clientInfo => "ClientInfoContent"
  | quotationInfo => "QuotationInfoContent"
  | itemsTable => "TableContent"
  | table => "TableContent"
  | totals => "TotalsContent"
  | terms => "TermsContent"
  | signature => "SignatureContent"
  | text => "TextContent"

/-- The entry that a content given as a bare text stands for. -/
def textEntry : ElementKind → String
  | terms => "text"
  | text => "text"
  | _ => "title"

end ElementKind

end QuotationPress
