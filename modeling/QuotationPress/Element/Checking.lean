import QuotationPress.Element.Content
import QuotationPress.Validation.Lenient

/-!
# Reading element content from loosely typed data

`Content.check` fits a value to the content model of a kind, `Content.parse?` does so with the
configuration of a table laid over it and reports a misfit as one malformed element.
-/

namespace QuotationPress

open Checked (optional required)

/-- A record whose absence, null, stands for an empty one and whose text form is refused. -/
def recordWithoutText (model : String) : Value → Checked Fields
  | .null => .good []
  | .str _ => .fault (.refused "string content is not supported for this element")
  | v => Lenient.record model v

namespace InfoField

def ofFields (fs : Fields) : Checked InfoField :=
  mk <$> optional .camel fs "label" none (Lenient.optional Lenient.text)
    <*> optional .camel fs "value" "" Lenient.text

def check (v : Value) : Checked InfoField := (recordWithoutText "InfoField" v).andThen ofFields

end InfoField

/-- A text is a line; any other value has to be a labelled one. -/
def InfoLine.check : Value → Checked InfoLine
  | .str s => .good (.text s)
  | v => match InfoField.check v with
    | .good f => .good (.field f)
    | .bad is => .bad (is.map (Issue.under "InfoField") ++ [⟨["str"], .notString⟩])

namespace Column

def ofFields (fs : Fields) : Checked Column :=
  mk <$> optional .camel fs "key" "" Lenient.text
    <*> optional .camel fs "label" "" Lenient.text
    <*> optional .camel fs "width" none (Lenient.optional Lenient.text)
    <*> optional .camel fs "alignment" "left" Lenient.text
    <*> optional .camel fs "format" none (Lenient.optional Lenient.text)
    <*> optional .camel fs "value" none (Lenient.optional Lenient.text)

/-- A text is the key and the label of a column. -/
def check : Value → Checked Column
  | .str s => .good { key := s, label := s }
  | v => (Lenient.record "ColumnSpec" v).andThen ofFields

end Column

/-- A list of columns or an object of flags; a misfit shows what is wrong with either reading. -/
def Columns.check (v : Value) : Checked Columns :=
  match Lenient.listOf Column.check v with
  | .good cs => .good (.listed cs)
  | .bad is =>
    match (Lenient.object v).andThen (Checked.eachField Lenient.flag) with
    | .good shown => .good (.flags shown)
    | .bad js =>
      .bad (is.map (Issue.under "list[ColumnSpec]") ++ js.map (Issue.under "dict[str,bool]"))

namespace TotalsLine

def ofFields (fs : Fields) : Checked TotalsLine :=
  mk <$> required .camel fs "label" Lenient.text
    <*> optional .camel fs "value" "" Lenient.text
    <*> optional .camel fs "show_if" "always" Lenient.text
    <*> optional .camel fs "emphasized" false Lenient.flag

def check (v : Value) : Checked TotalsLine := (recordWithoutText "TotalsField" v).andThen ofFields

end TotalsLine

def HeaderContent.ofFields (fs : Fields) : Checked HeaderContent :=
  let d : HeaderContent := {}
  mk <$> optional .camel fs "title" d.title Lenient.text
    <*> optional .camel fs "subtitle" d.subtitle (Lenient.optional Lenient.text)
    <*> optional .camel fs "show_date" d.showDate Lenient.flag
    <*> optional .camel fs "show_quotation_number" d.showQuotationNumber Lenient.flag
    <*> optional .camel fs "alignment" d.alignment Lenient.text

def InfoContent.ofFields (d : InfoContent) (fs : Fields) : Checked InfoContent :=
  mk <$> optional .camel fs "title" d.title (Lenient.optional Lenient.text)
    <*> optional .camel fs "fields" d.fields (Lenient.listOf InfoLine.check)
    <*> optional .camel fs "layout" d.layout Lenient.text
    <*> optional .camel fs "alignment" d.alignment Lenient.text

def TableContent.ofFields (fs : Fields) : Checked TableContent :=
  let d : TableContent := {}
  mk <$> optional .camel fs "title" d.title (Lenient.optional Lenient.text)
    <*> optional .camel fs "rows" d.rows (Lenient.listOf Lenient.list)
    <*> optional .camel fs "columns" d.columns Columns.check
    <*> optional .camel fs "show_header" d.showHeader Lenient.flag
    <*> optional .camel fs "column_widths" d.columnWidths
      (Lenient.listOf (Lenient.optional Lenient.text))
    <*> optional .camel fs "alternate_rows" d.alternateRows Lenient.flag

def TotalsContent.ofFields (fs : Fields) : Checked TotalsContent :=
  let d : TotalsContent := {}
  mk <$> optional .camel fs "title" d.title (Lenient.optional Lenient.text)
    <*> optional .camel fs "fields" d.fields (Lenient.listOf TotalsLine.check)
    <*> optional .camel fs "alignment" d.alignment Lenient.text

def TermsContent.ofFields (fs : Fields) : Checked TermsContent :=
  let d : TermsContent := {}
  mk <$> optional .camel fs "title" d.title Lenient.text
    <*> optional .camel fs "text" d.text Lenient.text
    <*> optional .camel fs "default_text" d.defaultText Lenient.text
    <*> optional .camel fs "show_title" d.showTitle Lenient.flag

def SignatureContent.ofFields (fs : Fields) : Checked SignatureContent :=
  let d : SignatureContent := {}
  mk <$> optional .camel fs "title" d.title Lenient.text
    <*> optional .camel fs "name" d.name Lenient.text
    <*> optional .camel fs "show_name" d.showName Lenient.flag
    <*> optional .camel fs "show_date" d.showDate Lenient.flag
    <*> optional .camel fs "signature_line" d.signatureLine Lenient.flag
    <*> optional .camel fs "alignment" d.alignment Lenient.text

def TextContent.ofFields (fs : Fields) : Checked TextContent :=
  let d : TextContent := {}
  mk <$> optional .camel fs "title" d.title (Lenient.optional Lenient.text)
    <*> optional .camel fs "text" d.text Lenient.text

namespace Content

def ofFields (kind : ElementKind) (fs : Fields) : Checked Content :=
  match kind with
  | .header => header <$> HeaderContent.ofFields fs
  | .companyInfo => info <$> InfoContent.ofFields .company fs
  | .clientInfo => info <$> InfoContent.ofFields .client fs
  | .quotationInfo => info <$> InfoContent.ofFields .quotation fs
  | .itemsTable => table <$> TableContent.ofFields fs
  | .table => table <$> TableContent.ofFields fs
  | .totals => totals <$> TotalsContent.ofFields fs
  | .terms => terms <$> TermsContent.ofFields fs
  | .signature => signature <$> SignatureContent.ofFields fs
  | .text => text <$> TextContent.ofFields fs

/-- The entries that a content stands for: none for null, one for a bare text. -/
def entries (kind : ElementKind) : Value → Checked Fields
  | .null => .good []
  | .str s => .good [(kind.textEntry, .str s)]
  | v => Lenient.record kind.modelName v

def check (kind : ElementKind) (v : Value) : Checked Content :=
  (entries kind v).andThen (ofFields kind)

/-- An issue in one line: the dotted path, or the word `content`, and the sentence. -/
def issueText (i : Issue) : String :=
  (if i.path.isEmpty then "content" else Value.joinedBy "." i.path) ++ ": " ++ i.fault.text

def ofChecked (kind : ElementKind) : Checked Content → Outcome Content
  | .good c => .ok c
  | .bad is => .error (.malformedElement kind.tag (Value.joinedBy "; " (is.map issueText)))

theorem ofChecked_eq_ok {kind : ElementKind} {x : Checked Content} {c : Content} :
    ofChecked kind x = .ok c ↔ x = .good c := by
  cases x <;> simp [ofChecked]

/-- Fits a value to the content model of a kind, the entries of a configuration laid over its
own. -/
def parse? (kind : ElementKind) (content : Value) (config : Fields) : Outcome Content :=
  if config.isEmpty then ofChecked kind (check kind content)
  else match entries kind content with
    | .good fs => ofChecked kind (ofFields kind (Fields.overlay fs config))
    | .bad _ => .error (.malformedElement kind.tag "content must be an object")

end Content

end QuotationPress
