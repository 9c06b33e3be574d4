import QuotationPress.Text.Case
import QuotationPress.Value.Text

/-!
# Themes and their palettes

`Palette.of` gives the palette of a theme, the modern one for a theme that is not known, with the
colours and the font of a branding laid over it.
-/

namespace QuotationPress

inductive Theme where
  | modern
  | classic
  | professional
  | creative
  deriving Repr, DecidableEq

structure Palette where
  name : String
  primaryColor : String
  secondaryColor : String
  accentColor : String
  fontFamily : String
  headerStyle : String
  tableStyle : String
  deriving Repr, DecidableEq

namespace Theme

def all : List Theme := [modern, classic, professional, creative]

def name : Theme → String
  | modern => "MODERN"
  | classic => "CLASSIC"
  | professional => "PROFESSIONAL"
  | creative => "CREATIVE"

/-- The theme of a name in any letter case. -/
def ofName? (s : String) : Option Theme := all.find? fun t => t.name == Text.toUpper s

def palette : Theme → Palette
  | modern =>
    { name := "Modern", primaryColor := "#2563eb", secondaryColor := "#64748b",
      accentColor := "#f59e0b", fontFamily := "Inter, sans-serif", headerStyle := "minimal",
      tableStyle := "bordered" }
  | classic =>
    { name := "Classic", primaryColor := "#1f2937", secondaryColor := "#6b7280",
      accentColor := "#dc2626", fontFamily := "Georgia, serif", headerStyle := "traditional",
      tableStyle := "striped" }
  | professional =>
    { name := "Professional", primaryColor := "#0f172a", secondaryColor := "#475569",
      accentColor := "#059669", fontFamily := "system-ui, sans-serif", headerStyle := "corporate",
      tableStyle := "minimal" }
  | creative =>
    { name := "Creative", primaryColor := "#7c3aed", secondaryColor := "#a78bfa",
      accentColor := "#f97316", fontFamily := "Poppins, sans-serif", headerStyle := "artistic",
      tableStyle := "gradient" }

end Theme

namespace Palette

def ofTheme (theme : String) : Palette := ((Theme.ofName? theme).getD .modern).palette

/-- The text of a branding entry that counts as given, else the fallback. -/
def branded (branding : Fields) (key fallback : String) : Outcome String :=
  let v := branding.get key
  if v.isTruthy then v.text else .ok fallback

def of (theme : String) (branding : Fields) : Outcome Palette := do
  let p := ofTheme theme
  return { p with
    primaryColor := ← branded branding "primaryColor" p.primaryColor
    secondaryColor := ← branded branding "secondaryColor" p.secondaryColor
    accentColor := ← branded branding "accentColor" p.accentColor
    fontFamily := ← branded branding "fontFamily" p.fontFamily }

end Palette

end QuotationPress
