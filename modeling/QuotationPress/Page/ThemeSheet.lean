import QuotationPress.Page.InlineStyle
import QuotationPress.Page.StyleSheet
import QuotationPress.Template.Basic
import QuotationPress.Template.Palette
import QuotationPress.Text.Blank

/-!
# The style sheet of a page

`themeSheet` is the sheet of a palette; `themeCss` is its text for a template, with the custom rules
of the branding at the end and without any `</` in it.
-/

namespace QuotationPress

def defaultMargin : Value := .int 20

/-- The margin of one side: the entry of the settings, if it is there at all. -/
def marginOf (margins : Fields) (side : String) : Value := (margins.get? side).getD defaultMargin

/-- The four margins, from the top clockwise. -/
def marginsCss (settings : Fields) : Outcome String := do
  let margins := ((settings.get "margins").fields?).getD []
  let sides ← ["top", "right", "bottom", "left"].mapM fun side =>
    InlineStyle.length (marginOf margins side)
  return Value.joinedBy " " sides

def containerRule (margins : String) (preview : Bool) : StyleRule :=
  ⟨".quotation-container", [("max-width", "800px"),
    ("margin", if preview then "20px auto" else "0 auto"), ("background", "white"),
    ("padding", margins)] ++
      (if preview then [("box-shadow", "0 2px 10px rgba(0,0,0,0.1)")] else [])⟩

def screenRules (p : Palette) (margins : String) (preview : Bool) : List StyleRule :=
  [⟨"*", [("margin", "0"), ("padding", "0"), ("box-sizing", "border-box")]⟩,
   ⟨"body", [("font-family", p.fontFamily), ("color", "#000"), ("line-height", "1.6"),
     ("background", if preview then "#f5f5f5" else "white")]⟩,
   containerRule margins preview,
   ⟨".element", [("margin", "5px 0")]⟩,
   ⟨".element-header", [("text-align", "center"), ("margin-bottom", "30px"),
     ("padding-bottom", "20px"), ("border-bottom", "2px solid " ++ p.primaryColor)]⟩,
   ⟨".element-header h1", [("font-size", "2.5em"), ("color", p.primaryColor),
     ("margin-bottom", "5px"), ("font-weight", "bold")]⟩,
   ⟨".element-header h2", [("font-size", "1.2em"), ("color", p.secondaryColor),
     ("font-weight", "normal")]⟩,
   ⟨".element-header .logo", [("max-height", "80px"), ("margin-bottom", "10px")]⟩,
   ⟨".element-header .header-meta", [("font-size", "0.9em"), ("color", p.secondaryColor)]⟩,
   ⟨"dl", [("margin", "0")]⟩,
   ⟨"dt", [("font-weight", "500"), ("color", p.secondaryColor)]⟩,
   ⟨"dd", [("margin", "0 0 4px 0")]⟩,
   ⟨".layout-table dl", [("display", "grid"), ("grid-template-columns", "max-content auto"),
     ("column-gap", "12px")]⟩,
   ⟨".align-right", [("text-align", "right")]⟩,
   ⟨".align-right.layout-table dl", [("justify-content", "end")]⟩,
   ⟨".align-center", [("text-align", "center")]⟩]

def tableRules (p : Palette) : List StyleRule :=
  [⟨".items-table", [("width", "100%"), ("border-collapse", "collapse"), ("margin", "20px 0")]⟩,
   ⟨".items-table th, .items-table td", [("padding", "12px 8px"), ("border", "1px solid #ddd")]⟩,
   ⟨".items-table th", [("background-color", p.primaryColor), ("color", "white"),
     ("font-weight", "bold")]⟩,
   ⟨".items-table .alternate-row", [("background-color", "#f9f9f9")]⟩,
   ⟨".items-table .empty-row td", [("text-align", "center"), ("padding", "20px"),
     ("color", "#666")]⟩,
   ⟨".totals-table", [("width", "300px"), ("margin-left", "auto"),
     ("border-collapse", "collapse")]⟩,
   ⟨".totals-table td", [("padding", "8px 12px"), ("border-bottom", "1px solid #eee")]⟩,
   ⟨".totals-table .label", [("text-align", "left"), ("font-weight", "500")]⟩,
   ⟨".totals-table .value", [("text-align", "right"), ("font-weight", "bold")]⟩,
   ⟨".totals-table .emphasized", [("background-color", p.primaryColor), ("color", "white"),
     ("font-weight", "bold")]⟩]

def blockRules (p : Palette) : List StyleRule :=
  [⟨".signature-area", [("margin-top", "40px")]⟩,
   ⟨".signature-line", [("border-bottom", "2px solid #333"), ("width", "250px"),
     ("height", "50px"), ("margin", "20px 0 10px auto")]⟩,
   ⟨".terms-content", [("font-size", "0.9em"), ("color", p.secondaryColor),
     ("line-height", "1.5"), ("white-space", "pre-line")]⟩,
   ⟨".text-content", [("line-height", "1.5"), ("white-space", "pre-line")]⟩,
   ⟨".element-generic", [("padding", "10px"), ("background", "#f9f9f9"),
     ("border", "1px dashed #ccc")]⟩]

def printRules : List StyleRule :=
  [⟨"body", [("background", "white")]⟩,
   ⟨".quotation-container", [("box-shadow", "none"), ("margin", "0"), ("max-width", "none")]⟩,
   ⟨".element-header, .element-totals, .element-signature", [("page-break-inside", "avoid")]⟩,
   ⟨".items-table tr", [("page-break-inside", "avoid")]⟩,
   ⟨".items-table thead", [("display", "table-header-group")]⟩]

def themeSheet (p : Palette) (margins : String) (preview : Bool) : StyleSheet :=
  (screenRules p margins preview ++ tableRules p ++ blockRules p).map .rule ++
    [.media "print" printRules]

/-- A backslash between `<` and `/`, so that no end tag can stand in a style sheet. -/
def withoutEndTags : List Char → List Char
  | '<' :: '/' :: rest => '<' :: '\\' :: '/' :: withoutEndTags rest
  | c :: rest => c :: withoutEndTags rest
  | [] => []

/-- The custom rules of a branding, if it has any. -/
def customRules? (branding : Fields) : Option String :=
  match branding.get "customCSS" with
  | .str s => let t := Text.strip s; if t.isEmpty then none else some t
  | _ => none

def themeCss (t : Template) (preview : Bool) : Outcome String := do
  let p ← Palette.of t.theme t.branding
  let sheet := (themeSheet p (← marginsCss t.settings) preview).text
  let css := match customRules? t.branding with
    | some rules => sheet ++ "\n/* branding */\n" ++ rules ++ "\n"
    | none => sheet
  return String.ofList (withoutEndTags css.toList)

end QuotationPress
