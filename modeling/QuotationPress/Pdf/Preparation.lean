import QuotationPress.Page.Markup
import QuotationPress.Page.StyleSheet
import QuotationPress.Pdf.Options
import QuotationPress.Settings

/-!
# Preparing a page for print

`insertPrintCss` puts the print style sheet before the end of the head, `addWatermark` an overlay
after the start of the body, and `PdfOptions.withBands` fills in the bands at the top and at the
bottom.
-/

namespace QuotationPress

/-! ### Finding a place in a page -/

/-- The position of the first occurrence of `part` in `cs`. -/
def findPart? (part : List Char) : List Char → Option Nat
  | [] => if part.isEmpty then some 0 else none
  | c :: rest =>
    if part.isPrefixOf (c :: rest) then some 0 else (findPart? part rest).map (· + 1)

/-- The position behind the first body start tag in any letter case. -/
def bodyStartEnd? : List Char → Option Nat
  | [] => none
  | c :: rest =>
    let here := "<body".toList.isPrefixOf ((c :: rest).map Text.asciiLowerChar)
      && (c :: rest).contains '>'
    if here then some (((c :: rest).takeWhile (· ≠ '>')).length + 1)
    else (bodyStartEnd? rest).map (· + 1)

/-- `part` inserted at a position. -/
def insertAt (position : Nat) (part cs : List Char) : List Char :=
  cs.take position ++ part ++ cs.drop position

/-! ### The print style sheet -/

def printSheet (o : PdfOptions) : StyleSheet :=
  let e := Text.escape
  let m := o.margins
  [.rule ⟨"@page", [("size", o.format.name ++ " " ++ o.orientation.name),
      ("margin", e m.top ++ " " ++ e m.right ++ " " ++ e m.bottom ++ " " ++ e m.left)]⟩,
   .media "print"
    [⟨"*", [("-webkit-print-color-adjust", "exact !important"),
        ("print-color-adjust", "exact !important")]⟩,
     ⟨"body", [("margin", "0"), ("padding", "0"), ("background", "white !important")]⟩,
     ⟨".page-break-before", [("page-break-before", "always")]⟩,
     ⟨".page-break-after", [("page-break-after", "always")]⟩,
     ⟨".keep-together, .element-totals, .element-terms, .element-signature",
       [("page-break-inside", "avoid")]⟩,
     ⟨"p", [("orphans", "3"), ("widows", "3")]⟩,
     ⟨".quotation-container", [("width", "100% !important"), ("max-width", "none !important"),
       ("margin", "0 !important"), ("padding", "0 !important"),
       ("box-shadow", "none !important")]⟩]]

def printStyle (o : PdfOptions) : List Char :=
  (Markup.styleSheet ("\n" ++ (printSheet o).text)).chars

/-- A page around a text that has no head of its own. -/
def wrapped (style html : List Char) : List Char :=
  "<!DOCTYPE html><html><head><meta charset=\"UTF-8\">".toList ++ style
    ++ "</head><body>".toList ++ html ++ "</body></html>".toList

/-- The end of the head is looked for in the lower case text, and its position is used in the text
itself. -/
def insertPrintCss (o : PdfOptions) (html : String) : String :=
  let cs := html.toList
  String.ofList (match findPart? "</head>".toList (Text.lower cs) with
    | some position => insertAt position (printStyle o) cs
    | none => wrapped (printStyle o) cs)

/-! ### Overlay -/

def intChars (i : Int) : String := String.ofList (intNumeral i)

def WatermarkOptions.style (w : WatermarkOptions) : String :=
  "position: fixed; top: 50%; left: 50%; transform: translate(-50%, -50%) rotate("
    ++ intChars w.rotation ++ "deg); font-size: " ++ intChars w.fontSize ++ "px; color: " ++ w.color
    ++ "; opacity: " ++ String.ofList w.opacity.text
    ++ "; z-index: 1000; pointer-events: none; font-weight: bold; white-space: nowrap;"

def WatermarkOptions.markup (w : WatermarkOptions) : Markup :=
  .element .div [(.classes, "watermark"), (.style, w.style)] [.text w.text]

/-- The overlay stands behind the start tag of the body, or in front of all when there is none. -/
def addWatermark (w : WatermarkOptions) (html : String) : String :=
  let cs := html.toList
  String.ofList (match bodyStartEnd? cs with
    | some position => insertAt position w.markup.chars cs
    | none => w.markup.chars ++ cs)

/-! ### Bands -/

def bandStyle (side : String) : String :=
  "font-size: 10px; color: #666; text-align: center; width: 100%; margin-" ++ side ++ ": 10px;"

def defaultHeader (companyName : String) : Markup :=
  .element .div [(.style, bandStyle "top")] [.element .span [] [.text companyName]]

def defaultFooter : Markup :=
  .element .div [(.style, bandStyle "bottom")]
    [.text "Page ", Markup.classed .span "pageNumber" [], .text " of ",
      Markup.classed .span "totalPages" []]

/-- A margin that leaves no room for a band is widened. -/
def roomForBand (margin : String) : String :=
  if margin = "20mm" || margin = "20px" then "80px" else margin

def bandText (own : Option String) (standard : Markup) : String :=
  match own with
  | none => standard.render
  | some "" => standard.render
  | some s => s

/-- The options with both bands shown. -/
def PdfOptions.withBands (o : PdfOptions) (companyName : String) (b : HeaderFooterOptions) :
    PdfOptions :=
  { o with
    displayHeaderFooter := true
    headerTemplate := bandText b.header (defaultHeader companyName)
    footerTemplate := bandText b.footer defaultFooter
    margins :=
      { o.margins with top := roomForBand o.margins.top, bottom := roomForBand o.margins.bottom } }

end QuotationPress
