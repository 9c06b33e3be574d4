import QuotationPress.Page.Markup
import QuotationPress.Page.ThemeSheet
import QuotationPress.Page.View

/-!
# The page of a quotation

`ElementView.markup` lays out one element, `Page.markup` the whole page, and `renderPage` goes from
a template and a context to the text of the page.
-/

namespace QuotationPress

open Markup (newline classed holding lineIf)

namespace ElementView

/-- Classes and style of the outer box. -/
def frameAttributes (f : Frame) : Attributes :=
  (.classes, Value.joinedBy " " (["element", "element-" ++ f.kind] ++ f.classes))
    :: (if f.style = "" then [] else [(.style, f.style)])

def titleLine (title : String) : List Markup := lineIf (title ≠ "") (holding .h3 title)

def detailLine (d : String × String) : List Markup :=
  [classed .paragraph "header-meta"
    [classed .span "label" [.text (d.1 ++ ":")], .text (" " ++ d.2)], newline]

def infoLine (d : String × String) : List Markup :=
  (if d.1 = "" then [] else [holding .dt d.1]) ++ [holding .dd d.2, newline]

def headerRow (columns : List HeaderColumn) : List Markup :=
  [newline,
    .element .tr [] (columns.map fun c => .element .th [(.style, c.style)] [.text c.label]),
    newline]

/-- Rows are counted from one; every second one is set off when rows alternate. -/
def dataRow (alternate : Bool) (number : Nat) (cells : List Cell) : Markup :=
  classed .tr ("data-row" ++ (if alternate && number % 2 == 0 then " alternate-row" else ""))
    (cells.map fun c => .element .td [(.style, "text-align: " ++ c.2)] [.text c.1])

def dataRows (alternate : Bool) : Nat → List (List Cell) → List Markup
  | _, [] => []
  | number, row :: rest =>
    dataRow alternate number row :: newline :: dataRows alternate (number + 1) rest

def emptyRow (v : TableView) : List Markup :=
  if v.emptyMessage = "" then []
  else [classed .tr "empty-row"
    [.element .td [(.colspan, String.ofList (numeral (max v.columns.length 1)))]
      [.text v.emptyMessage]]]

def bodyRows (v : TableView) : List Markup :=
  if v.rows.isEmpty then emptyRow v else dataRows v.alternateRows 1 v.rows

def totalsLine (r : TotalsRow) : List Markup :=
  [.element .tr (if r.emphasized then [(.classes, "emphasized")] else [])
    [classed .td "label" [.text (r.label ++ ":")], classed .td "value" [.text r.value]], newline]

/-- The logo as the source of a picture; null and all that counts as not given have no logo. -/
def logoLine (logo : Value) : Outcome (List Markup) :=
  if logo.isTruthy then do
    return [.void .image [(.classes, "logo"), (.src, ← logo.text), (.alt, "")], newline]
  else .ok []

def markup : ElementView → Outcome Markup
  | header frame title subtitle details logo => do
    return .element .headerBox (frameAttributes frame)
      ([newline] ++ (← logoLine logo) ++ [holding .h1 title, newline]
        ++ lineIf (subtitle ≠ "") (holding .h2 subtitle) ++ details.flatMap detailLine)
  | info frame title lines =>
    .ok (.element .sectionBox (frameAttributes frame)
      ([newline] ++ titleLine title
        ++ [.element .dl [] (newline :: lines.flatMap infoLine), newline]))
  | table frame v =>
    .ok (.element .div (frameAttributes frame)
      ([newline] ++ titleLine v.title
        ++ [classed .table "items-table"
          (newline :: lineIf v.showHeader (.element .thead [] (headerRow v.columns))
            ++ [.element .tbody [] (newline :: bodyRows v), newline]), newline]))
  | totals frame title rows =>
    .ok (.element .div (frameAttributes frame)
      ([newline] ++ titleLine title
        ++ [classed .table "totals-table" (newline :: rows.flatMap totalsLine), newline]))
  | block frame title text bodyClass =>
    .ok (.element .div (frameAttributes frame)
      ([newline] ++ titleLine title ++ [classed .div bodyClass [.text text], newline]))
  | signature frame title name showDate showLine =>
    .ok (.element .div (frameAttributes frame)
      [newline, classed .div "signature-area"
        ([newline, holding .h4 title, newline]
          ++ lineIf showLine (classed .div "signature-line" [])
          ++ lineIf (name ≠ "") (classed .div "signature-name" [.text name])
          ++ lineIf showDate (classed .div "signature-date" [.text "Date: _______________"])),
          newline])

end ElementView

/-- What a page is made of. -/
structure Page where
  number : String
  css : String
  preview : Bool
  elements : List Markup

namespace Page

def headMarkup (p : Page) : Markup :=
  .element .head []
    [newline, .void .metadata [(.charset, "UTF-8")], newline,
      .void .metadata [(.name, "viewport"), (.content, "width=device-width, initial-scale=1.0")],
      newline, holding .title ("Quotation " ++ p.number), newline,
      .styleSheet ("\n" ++ p.css ++ "\n"), newline]

def bodyMarkup (p : Page) : Markup :=
  classed .body (if p.preview then "preview" else "document")
    [newline,
      classed .div "quotation-container" (newline :: p.elements.flatMap fun m => [m, newline]),
      newline]

def markup (p : Page) : Markup :=
  .element .html [(.lang, "en")] [newline, p.headMarkup, newline, p.bodyMarkup, newline]

/-- The declaration of the document type and the markup of the page. -/
def text (p : Page) : String := "<!DOCTYPE html>\n" ++ p.markup.render

end Page

def defaultSymbol : String := "₹"

/-- The currency symbol of the settings, the rupee sign when there is none. -/
def currencySymbol (settings : Fields) : Outcome String :=
  ((settings.get "currencySymbol").orElse (.str defaultSymbol)).text

def elementViews (l : Merge.Lookup) (branding : Fields) (elements : List TemplateElement) :
    Outcome (List ElementView) :=
  (elements.filter TemplateElement.visible).mapM fun e => ElementView.of e l branding

/-- The number of the quotation in the title of the page; a quotation without one is a preview. -/
def titleNumber (l : Merge.Lookup) : Outcome Value := do
  let number ← l.raw "quotation.number"
  return if number.isBlankField then .str "Preview" else number

def pageOf (t : Template) (context : RenderContext) (preview : Bool) : Outcome Page := do
  let symbol ← currencySymbol t.settings
  let l ← Merge.Lookup.of? symbol context
  let views ← elementViews l t.branding t.elements
  let number ← titleNumber l
  let css ← themeCss t preview
  return { number := ← number.text, css, preview, elements := ← views.mapM ElementView.markup }

def renderPage (t : Template) (context : RenderContext) (preview : Bool) : Outcome String := do
  return (← pageOf t context preview).text

end QuotationPress
