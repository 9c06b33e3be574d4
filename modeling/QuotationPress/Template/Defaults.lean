import QuotationPress.Element.Listing
import QuotationPress.Template.Palette

/-!
# What a new element starts with

`defaultContent` and `defaultStyle` give content and style of an element of a kind; an element of an
unknown kind has no content of its own.
-/

namespace QuotationPress

/-- Changes the `i`-th member of a list, counted from zero. -/
def changeAt {α : Type} (f : α → α) : Nat → List α → List α
  | _, [] => []
  | 0, x :: rest => f x :: rest
  | i + 1, x :: rest => x :: changeAt f i rest

/-- The tax line names the rate. -/
def defaultTotals : TotalsContent :=
  let c : TotalsContent := {}
  { c with fields := changeAt (fun l =>
    { l with label := "Tax (" ++ slot "tax.rate" ++ "%)" }) 2 c.fields }

/-- The terms of payment follow the standard lines. -/
def defaultQuotationInfo : InfoContent :=
  { InfoContent.quotation with
    fields := InfoContent.quotation.fields
      ++ [.field { label := some "Terms", value := slot "quotation.paymentTerms" }] }

def defaultContent (kind : Option ElementKind) : Fields :=
  match kind with
  | none => []
  | some .header =>
    [("title", .str (slot "company.name")), ("subtitle", .str "QUOTATION"),
      ("showDate", .bool true),
      ("showQuotationNumber", .bool true), ("alignment", .str "center")]
  | some .quotationInfo => (Content.info defaultQuotationInfo).filled.fields?.getD []
  | some .totals => (Content.totals defaultTotals).filled.fields?.getD []
  | some .text => [("text", .str "Custom text content")]
  | some k => k.standardContent.filled.fields?.getD []

def styleEntries (entries : List (String × String)) : Fields := entries.map fun e => (e.1, .str e.2)

def plainStyle (p : Palette) : Fields :=
  styleEntries
    [("fontFamily", p.fontFamily), ("fontSize", "14px"), ("color", "#000000"),
      ("backgroundColor", "transparent"), ("padding", "10px"), ("margin", "5px 0"),
      ("border", "none")]

def headerStyle (p : Palette) : Fields :=
  Fields.overlay ((plainStyle p).erase "border")
    (styleEntries
      [("fontSize", "24px"), ("fontWeight", "bold"), ("color", p.primaryColor),
        ("textAlign", "center"), ("padding", "20px"),
        ("borderBottom", "2px solid " ++ p.primaryColor)])

def tableStyle (p : Palette) : Fields :=
  Fields.overlay (plainStyle p)
    (styleEntries [("border", "1px solid #e5e7eb"), ("borderRadius", "4px")])

def totalsStyle (p : Palette) : Fields :=
  Fields.overlay (plainStyle p)
    (styleEntries
      [("fontWeight", "500"), ("backgroundColor", "#f9fafb"), ("border", "1px solid #e5e7eb"),
        ("borderRadius", "4px")])

def defaultStyle (kind : Option ElementKind) (theme : String) : Fields :=
  let p := Palette.ofTheme theme
  match kind with
  | some .header => headerStyle p
  | some .itemsTable => tableStyle p
  | some .table => tableStyle p
  | some .totals => totalsStyle p
  | _ => plainStyle p

end QuotationPress
