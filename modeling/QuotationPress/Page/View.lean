import QuotationPress.Element.Checking
import QuotationPress.Merge.Tables
import QuotationPress.Page.InlineStyle
import QuotationPress.Template.Basic

/-!
# What the page shows of each element

A view holds texts only, with every placeholder filled in. `ElementView.of` builds the view of one
element; an element of an unknown kind, or with content that does not fit its kind, becomes a plain
block.
-/

namespace QuotationPress

/-- The outer box of an element. -/
structure Frame where
  kind : String
  classes : List String
  style : String
  deriving Repr, DecidableEq

structure TotalsRow where
  label : String
  value : String
  emphasized : Bool
  deriving Repr, DecidableEq

/-- A cell and its alignment. -/
abbrev Cell := String × String

structure HeaderColumn where
  label : String
  style : String
  deriving Repr, DecidableEq

structure TableView where
  title : String
  showHeader : Bool
  columns : List HeaderColumn
  rows : List (List Cell)
  alternateRows : Bool
  emptyMessage : String
  deriving Repr, DecidableEq

inductive ElementView where
  | header (frame : Frame) (title subtitle : String) (details : List (String × String))
      (logo : Value)
  | info (frame : Frame) (title : String) (lines : List (String × String))
  | table (frame : Frame) (view : TableView)
  | totals (frame : Frame) (title : String) (rows : List TotalsRow)
  | block (frame : Frame) (title text bodyClass : String)
  | signature (frame : Frame) (title name : String) (showDate showLine : Bool)

namespace ElementView

open Merge (Lookup)

def frameOf (e : TemplateElement) (kind : String) (classes : List String) : Outcome Frame := do
  return { kind, classes, style := ← inlineStyle e.style }

def headerView (e : TemplateElement) (c : HeaderContent) (l : Lookup) (branding : Fields) :
    Outcome ElementView := do
  let frame ← frameOf e "header" ["align-" ++ c.alignment]
  let number ← if c.showQuotationNumber then
    pure [("Quotation #", ← l.resolve "quotation.number")] else pure []
  let date ← if c.showDate then pure [("Date", ← l.resolve "quotation.date")] else pure []
  let title ← l.mergeText c.title
  let subtitle ← l.mergeText? c.subtitle
  return header frame title subtitle (number ++ date) ((branding.get "logoUrl").orElse (.str ""))

/-- A text without a value is left out; a labelled value never is. -/
def infoLines (l : Lookup) : List InfoLine → Outcome (List (String × String))
  | [] => .ok []
  | .field f :: rest => do
    let label ← l.mergeText? f.label
    let value ← l.mergeText f.value
    return (label, value) :: (← infoLines l rest)
  | .text s :: rest => do
    let value ← l.mergeText s
    let more ← infoLines l rest
    return if value = "" then more else ("", value) :: more

def infoView (e : TemplateElement) (c : InfoContent) (l : Lookup) (kind : ElementKind) :
    Outcome ElementView := do
  let frame ← frameOf e kind.tag ["layout-" ++ c.layout, "align-" ++ c.alignment]
  let lines ← infoLines l c.fields
  return info frame (← l.mergeText? c.title) lines

def headerColumn (l : Lookup) (c : Column) : Outcome HeaderColumn := do
  let width := match Merge.nonempty? c.width with | some w => "width: " ++ w ++ "; " | none => ""
  return { label := ← l.mergeText c.label, style := width ++ "text-align: " ++ c.alignment }

/-- The cells of a row with the alignments of their columns; a cell beyond them is at the left. -/
def alignedCells : List String → List String → List Cell
  | [], _ => []
  | cell :: rest, [] => (cell, "left") :: alignedCells rest []
  | cell :: rest, a :: as => (cell, a) :: alignedCells rest as

def tableView (e : TemplateElement) (c : TableContent) (l : Lookup) (kind : ElementKind) :
    Outcome ElementView := do
  let isItems := kind == .itemsTable
  let body ← if isItems then Merge.itemRows c l else Merge.authoredRows c l
  let frame ← frameOf e kind.tag []
  let title ← l.mergeText? c.title
  let columns ← body.columns.mapM (headerColumn l)
  return table frame
    { title
      showHeader := c.showHeader && body.columns.any fun col => !col.label.isEmpty
      columns
      rows := body.rows.map fun row => alignedCells row (body.columns.map Column.alignment)
      alternateRows := c.alternateRows
      emptyMessage := if isItems then "No items found" else "" }

/-- The lines whose condition holds. -/
def totalsRows (l : Lookup) : List TotalsLine → Outcome (List TotalsRow)
  | [] => .ok []
  | line :: rest => do
    if ← Merge.isShown l (some line.showIf) then
      let label ← l.mergeText line.label
      let value ← l.mergeText line.value
      return { label, value, emphasized := line.emphasized } :: (← totalsRows l rest)
    else totalsRows l rest

def totalsView (e : TemplateElement) (c : TotalsContent) (l : Lookup) : Outcome ElementView := do
  let frame ← frameOf e "totals" ["align-" ++ c.alignment]
  let title ← l.mergeText? c.title
  return totals frame title (← totalsRows l c.fields)

def termsView (e : TemplateElement) (c : TermsContent) (l : Lookup) : Outcome ElementView := do
  let frame ← frameOf e "terms" []
  let own := Text.strip (← l.mergeText c.text)
  let text ← if own = "" then l.mergeText c.defaultText else pure own
  let title ← if c.showTitle then l.mergeText c.title else pure ""
  return block frame title text "terms-content"

def textView (e : TemplateElement) (c : TextContent) (l : Lookup) : Outcome ElementView := do
  let frame ← frameOf e "text" []
  let title ← l.mergeText? c.title
  return block frame title (← l.mergeText c.text) "text-content"

def signatureView (e : TemplateElement) (c : SignatureContent) (l : Lookup) :
    Outcome ElementView := do
  let frame ← frameOf e "signature" ["align-" ++ c.alignment]
  let title ← l.mergeText c.title
  let name ← if c.showName then l.mergeText c.name else pure ""
  return signature frame title name c.showDate c.signatureLine

/-! ### Plain blocks -/

/-- The entries of an object that can stand for its text, best first. -/
def textKeys : List String := ["text", "title", "value", "label"]

def textsIn : List Value → List String
  | [] => []
  | .str s :: rest => s :: textsIn rest
  | _ :: rest => textsIn rest

def plainText (l : Lookup) (content : Value) : Outcome String :=
  match content with
  | .obj fs => match textKeys.findSome? fun key => (Fields.get fs key).text? with
    | some s => l.mergeText s
    | none => .ok ""
  | .list xs => do return Value.joinedBy " " (← (textsIn xs).mapM l.mergeText)
  | .tuple xs => do return Value.joinedBy " " (← (textsIn xs).mapM l.mergeText)
  | v => l.merge v

/-- What of a lower case tag can stand in a class name. -/
def isClassChar (c : Char) : Bool :=
  ('a' ≤ c && c ≤ 'z') || ('0' ≤ c && c ≤ '9') || c == '_' || c == '-'

def classTag (type : String) : String :=
  let kept := (Text.lower type.toList).filter isClassChar
  if kept.isEmpty then "unknown" else String.ofList kept

def plainView (e : TemplateElement) (l : Lookup) : Outcome ElementView := do
  let frame ← frameOf e "generic" ["element-" ++ classTag e.type]
  return block frame "" (← plainText l e.content) "generic-content"

/-! ### All kinds -/

def ofContent (e : TemplateElement) (kind : ElementKind) (content : Content) (l : Lookup)
    (branding : Fields) : Outcome ElementView :=
  match content with
  | .header c => headerView e c l branding
  | .info c => infoView e c l kind
  | .table c => tableView e c l kind
  | .totals c => totalsView e c l
  | .terms c => termsView e c l
  | .signature c => signatureView e c l
  | .text c => textView e c l

/-- The configuration counts for tables only. -/
def contentOf? (e : TemplateElement) (kind : ElementKind) : Outcome Content :=
  Content.parse? kind e.content (if kind.isTable then e.config.getD [] else [])

def of (e : TemplateElement) (l : Lookup) (branding : Fields) : Outcome ElementView :=
  match e.kind with
  | none => plainView e l
  | some kind =>
    match contentOf? e kind with
    | .ok content => ofContent e kind content l branding
    | .error _ => plainView e l

end ElementView

end QuotationPress
