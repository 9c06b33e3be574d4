import QuotationPress.Text.Case
import QuotationPress.Validation.Lenient
import QuotationPress.Value.Text

/-!
# How a page is made into a PDF file

`PdfOptions.check` reads the options leniently: what is unknown or missing takes the standard
setting, and only a few misfits are refused. `PdfOptions.printArguments` are the arguments of the
call that prints a page.
-/

namespace QuotationPress

inductive PageFormat where
  | a4 | a5 | letter | legal
  deriving Repr, DecidableEq

inductive Orientation where
  | portrait | landscape
  deriving Repr, DecidableEq

inductive Quality where
  | draft | standard | high | premium
  deriving Repr, DecidableEq

namespace PageFormat

def name : PageFormat → String
  | a4 => "A4"
  | a5 => "A5"
  | letter => "Letter"
  | legal => "Legal"

/-- The format of a name in capitals; other names stand for A4. -/
def ofName (s : String) : PageFormat :=
  match s with
  | "A5" => a5
  | "LETTER" => letter
  | "LEGAL" => legal
  | _ => a4

end PageFormat

namespace Orientation

def name : Orientation → String
  | portrait => "portrait"
  | landscape => "landscape"

def ofName? (s : String) : Option Orientation :=
  if s = "portrait" then some portrait else if s = "landscape" then some landscape else none

end Orientation

namespace Quality

def name : Quality → String
  | draft => "DRAFT"
  | standard => "STANDARD"
  | high => "HIGH"
  | premium => "PREMIUM"

/-- The quality of a name in capitals; other names stand for the standard. -/
def ofName (s : String) : Quality :=
  match s with
  | "DRAFT" => draft
  | "HIGH" => high
  | "PREMIUM" => premium
  | _ => standard

/-- Device pixels for one pixel of the page. -/
def scale : Quality → Binary64
  | draft => Binary64.ofInt 1
  | standard => Binary64.ofRatio false 3 2
  | high => Binary64.ofInt 2
  | premium => Binary64.ofInt 3

def printsBackground (q : Quality) : Bool := q != draft

end Quality

structure Margins where
  top : String := "20mm"
  right : String := "20mm"
  bottom : String := "20mm"
  left : String := "20mm"
  deriving Repr, DecidableEq

def Margins.fields (m : Margins) : Fields :=
  [("top", .str m.top), ("right", .str m.right), ("bottom", .str m.bottom), ("left", .str m.left)]

structure PdfOptions where
  format : PageFormat := .a4
  orientation : Orientation := .portrait
  quality : Quality := .standard
  margins : Margins := {}
  displayHeaderFooter : Bool := false
  printBackground : Bool := true
  headerTemplate : String := ""
  footerTemplate : String := ""
  timeoutSeconds : Option Binary64 := none

namespace PdfOptions

open Checked (optional)

/-- A text that could be written, or the reason why it could not. -/
def written (x : Outcome String) : Checked String :=
  match x with
  | .ok s => .good s
  | .error f => .fault (.refused f.message)

/-- The text of a value, of `fallback` when it does not count as given. -/
def textOr (fallback : String) (v : Value) : Checked String :=
  written (v.orElse (.str fallback)).text

def checkFormat (v : Value) : Checked PageFormat :=
  (textOr "A4" v).map fun s => PageFormat.ofName (Text.toUpper s)

def checkOrientation (v : Value) : Checked Orientation :=
  (textOr "portrait" v).andThen fun s =>
    match Orientation.ofName? (Text.toLower s) with
    | some o => .good o
    | none => .fault (.notChoice ["portrait", "landscape"])

def checkQuality (v : Value) : Checked Quality :=
  (textOr "STANDARD" v).map fun s => Quality.ofName (Text.toUpper s)

def isNumber : Value → Bool
  | .int _ => true
  | .float _ => true
  | .bool _ => true
  | _ => false

/-- The margin of one side: numbers count pixels, and a side that is not filled in takes the
standard. -/
def checkSide (fs : Fields) (side : String) : Checked String :=
  let v := fs.get side
  if v.isBlankField then .good "20mm"
  else (written v.text).map fun s => if isNumber v then s ++ "px" else s

/-- The first issue counts. -/
def checkMargins (v : Value) : Checked Margins :=
  match v.fields? with
  | some fs =>
    (checkSide fs "top").andThen fun top => (checkSide fs "right").andThen fun right =>
      (checkSide fs "bottom").andThen fun bottom => (checkSide fs "left").map fun left =>
        { top, right, bottom, left }
  | none => .good {}

def ofFields (fs : Fields) : Checked PdfOptions :=
  mk <$> optional .camel fs "format" .a4 checkFormat
    <*> optional .camel fs "orientation" .portrait checkOrientation
    <*> optional .camel fs "quality" .standard checkQuality
    <*> optional .camel fs "margins" {} checkMargins
    <*> optional .camel fs "display_header_footer" false Lenient.flag
    <*> optional .camel fs "print_background" true Lenient.flag
    <*> optional .camel fs "header_template" "" Lenient.text
    <*> optional .camel fs "footer_template" "" Lenient.text
    <*> optional .camel fs "timeout_seconds" none (Lenient.optional Lenient.real)

def check (v : Value) : Checked PdfOptions := (Lenient.record "PdfOptions" v).andThen ofFields

def read? (v : Value) : Outcome PdfOptions := (check v).outcome "PdfOptions"

def scale (o : PdfOptions) : Binary64 := o.quality.scale

def listing (o : PdfOptions) : Value :=
  .obj [("format", .str o.format.name), ("orientation", .str o.orientation.name),
    ("quality", .str o.quality.name), ("margins", .obj o.margins.fields),
    ("display_header_footer", .bool o.displayHeaderFooter),
    ("print_background", .bool o.printBackground), ("header_template", .str o.headerTemplate),
    ("footer_template", .str o.footerTemplate),
    ("timeout_seconds", (o.timeoutSeconds.map Value.float).getD .null)]

/-- A band of the page may not be empty. -/
def bandOrEmpty (s : String) : String := if s = "" then "<span></span>" else s

def bandArguments (o : PdfOptions) : Fields :=
  if o.displayHeaderFooter then
    [("header_template", .str (bandOrEmpty o.headerTemplate)),
      ("footer_template", .str (bandOrEmpty o.footerTemplate))]
  else []

def printArguments (o : PdfOptions) : Fields :=
  [("format", .str o.format.name), ("landscape", .bool (o.orientation == .landscape)),
    ("margin", .obj o.margins.fields),
    ("print_background", .bool (o.printBackground && o.quality.printsBackground)),
    ("display_header_footer", .bool o.displayHeaderFooter), ("prefer_css_page_size", .bool true)]
    ++ o.bandArguments

end PdfOptions

/-! ### Overlay and bands -/

structure WatermarkOptions where
  text : String := "CONFIDENTIAL"
  opacity : Binary64 := Binary64.ofRatio false 1 10
  fontSize : Int := 48
  rotation : Int := 45
  color : String := "#000000"

structure HeaderFooterOptions where
  header : Option String := none
  footer : Option String := none
  deriving Repr, DecidableEq

open Checked (optional)

def WatermarkOptions.check (v : Value) : Checked WatermarkOptions :=
  (Lenient.record "WatermarkOptions" v).andThen fun fs =>
    let d : WatermarkOptions := {}
    mk <$> optional .camel fs "text" d.text Lenient.text
      <*> optional .camel fs "opacity" d.opacity Lenient.real
      <*> optional .camel fs "font_size" d.fontSize Lenient.whole
      <*> optional .camel fs "rotation" d.rotation Lenient.whole
      <*> optional .camel fs "color" d.color Lenient.text

def WatermarkOptions.read? (v : Value) : Outcome WatermarkOptions :=
  (check v).outcome "WatermarkOptions"

def HeaderFooterOptions.check (v : Value) : Checked HeaderFooterOptions :=
  (Lenient.record "HeaderFooterOptions" v).andThen fun fs =>
    mk <$> optional .camel fs "header" none (Lenient.optional Lenient.text)
      <*> optional .camel fs "footer" none (Lenient.optional Lenient.text)

def HeaderFooterOptions.read? (v : Value) : Outcome HeaderFooterOptions :=
  (check v).outcome "HeaderFooterOptions"

/-- A switch: null and false leave the setting out, true stands for the standard one, and all else
is read as options. -/
def readSwitch {α : Type} (standard : α) (read : Value → Outcome α) : Value → Outcome (Option α)
  | .null => .ok none
  | .bool false => .ok none
  | .bool true => .ok (some standard)
  | v => (read v).map some

def readWatermark : Value → Outcome (Option WatermarkOptions) :=
  readSwitch {} WatermarkOptions.read?

def readHeaderFooter : Value → Outcome (Option HeaderFooterOptions) :=
  readSwitch {} HeaderFooterOptions.read?

end QuotationPress
