import QuotationPress.Pdf.Options
import QuotationPress.Text.Utf8

/-!
# What makes a prepared page into a PDF file

A `PdfEngine` is started, converts pages, and is cleaned up; it carries a state of its own through
all three. `TrialEngine` makes short files without a browser and fails where it is told to.
-/

namespace QuotationPress

/-- The bytes of a file. -/
abbrev Bytes := List UInt8

/-- How the conversion of one page ends. -/
inductive Conversion where
  | done (pdf : Bytes)
  /-- The engine refuses the page in words of its own. -/
  | rejected (reason : String)
  | crashed (reason : String)
  | neverEnds
  deriving Repr, DecidableEq

structure PdfEngine (σ : Type) where
  start : σ → Except String Unit × σ
  convert : String → PdfOptions → σ → Conversion × σ
  cleanup : σ → Except String Unit × σ

/-! ### Trial runs -/

/-- When a trial engine fails. A marker is looked for in the prepared page. -/
structure TrialPlan where
  failsToStart : Bool := false
  failsToCleanUp : Bool := false
  slowMarker : String := ""
  failMarker : String := ""
  rejectMarker : String := ""
  deriving Repr, DecidableEq

/-- What has been asked of a trial engine; pages are listed once they are done. -/
structure TrialRecord where
  started : Nat := 0
  cleaned : Nat := 0
  rendered : List (String × PdfOptions) := []

namespace TrialEngine

def isMarked (marker html : String) : Bool := marker ≠ "" && contains marker.toList html.toList
where
  contains (part : List Char) : List Char → Bool
    | [] => part.isEmpty
    | c :: rest => part.isPrefixOf (c :: rest) || contains part rest

/-- The format and the length of the page. -/
def file (html : String) (o : PdfOptions) : Bytes :=
  Text.utf8Bytes ("%PDF-1.4 " ++ o.format.name ++ " " ++ toString html.length)

def convert (plan : TrialPlan) (html : String) (o : PdfOptions) (r : TrialRecord) :
    Conversion × TrialRecord :=
  if isMarked plan.slowMarker html then (.neverEnds, r)
  else if isMarked plan.failMarker html then (.crashed "page crashed", r)
  else if isMarked plan.rejectMarker html then (.rejected "rejected by engine", r)
  else (.done (file html o), { r with rendered := r.rendered ++ [(html, o)] })

end TrialEngine

def TrialEngine (plan : TrialPlan) : PdfEngine TrialRecord where
  start r :=
    (if plan.failsToStart then .error "chromium missing" else .ok (),
      { r with started := r.started + 1 })
  convert := TrialEngine.convert plan
  cleanup r :=
    (if plan.failsToCleanUp then .error "cleanup failed" else .ok (),
      { r with cleaned := r.cleaned + 1 })

end QuotationPress
