import QuotationPress.Pdf.Engine
import QuotationPress.Settings

/-!
# The engine that drives a browser

Every step is a call on some object of the browser driver; `BrowserEngine` says which calls it
makes, in which order, and what becomes of them when one fails. The calls are recorded, and which of
them fail is given from outside.
-/

namespace QuotationPress

structure BrowserCall where
  /-- The object and its method, with a point between them. -/
  target : String
  positional : List Value := []
  named : Fields := []

/-- What the engine holds on to, and the calls made so far. -/
structure BrowserState where
  hasDriver : Bool := false
  hasBrowser : Bool := false
  calls : List BrowserCall := []

structure BrowserSetup where
  headless : Bool := Settings.browserHeadless
  arguments : List String := Settings.browserArguments
  /-- The calls that fail, once made. -/
  fails : String → Bool := fun _ => false

namespace Browser

/-- Steps on a browser: the state outlives a failure. -/
abbrev Steps (α : Type) := BrowserState → Except String α × BrowserState

def call (setup : BrowserSetup) (c : BrowserCall) : Steps Unit := fun s =>
  (if setup.fails c.target then .error (c.target ++ " failed") else .ok (),
    { s with calls := s.calls ++ [c] })

/-- The second step is taken if the first one succeeds. -/
def andThen {α : Type} (first : Steps Unit) (second : Steps α) : Steps α := fun s =>
  match first s with
  | (.ok _, s) => second s
  | (.error e, s) => (.error e, s)

/-- The last step is taken in any case; its failure hides that of the first one. -/
def lastly {α : Type} (first : Steps α) (last : Steps Unit) : Steps α := fun s =>
  match first s with
  | (result, s) =>
    match last s with
    | (.ok _, s) => (result, s)
    | (.error e, s) => (.error e, s)

def update (f : BrowserState → BrowserState) : Steps Unit := fun s => (.ok (), f s)

def launchCall (setup : BrowserSetup) : BrowserCall where
  target := "chromium.launch"
  named := [("headless", .bool setup.headless), ("args", .list (setup.arguments.map .str))]

def start (setup : BrowserSetup) : Steps Unit :=
  andThen (call setup { target := "factory.start" })
    (andThen (update fun s => { s with hasDriver := true })
      (andThen (call setup (launchCall setup))
        (update fun s => { s with hasBrowser := true })))

/-- The file that a browser prints. -/
def file : Bytes := Text.utf8Bytes "%PDF-chromium"

def contentCall (html : String) : BrowserCall where
  target := "page.set_content"
  positional := [.str html]
  named := [("wait_until", .str "networkidle")]

def mediaCall : BrowserCall where
  target := "page.emulate_media"
  named := [("media", .str "print")]

def pdfCall (o : PdfOptions) : BrowserCall where
  target := "page.pdf"
  named := o.printArguments

def printPage (setup : BrowserSetup) (html : String) (o : PdfOptions) : Steps Bytes :=
  andThen (call setup (contentCall html))
    (andThen (call setup mediaCall)
      (andThen (call setup (pdfCall o)) fun s => (.ok file, s)))

def pageCall (o : PdfOptions) : BrowserCall where
  target := "browser.new_page"
  named := [("device_scale_factor", .float o.scale)]

/-- A page is opened for the document and closed again. -/
def convert (setup : BrowserSetup) (html : String) (o : PdfOptions) : Steps Bytes := fun s =>
  if s.hasBrowser then
    andThen (call setup (pageCall o))
      (lastly (printPage setup html o) (call setup { target := "page.close" })) s
  else (.error "PDF engine not started", s)

def doNothing : Steps Unit := fun s => (.ok (), s)

/-- What the engine holds on to is let go of, the driver even if the browser does not close. -/
def cleanup (setup : BrowserSetup) : Steps Unit := fun s =>
  let closing := if s.hasBrowser then call setup { target := "browser.close" } else doNothing
  let stopping := if s.hasDriver then call setup { target := "playwright.stop" } else doNothing
  lastly closing stopping { s with hasDriver := false, hasBrowser := false }

end Browser

def BrowserEngine (setup : BrowserSetup) : PdfEngine BrowserState where
  start := Browser.start setup
  convert html o s :=
    match Browser.convert setup html o s with
    | (.ok pdf, s) => (.done pdf, s)
    | (.error e, s) => (.crashed e, s)
  cleanup := Browser.cleanup setup

end QuotationPress
