import QuotationPress.Element.Checking
import QuotationPress.Proofs.Validation.Overlay

/-!
# The fields of element content

`ElementKind.Record` is the record that the content of a kind is kept in, and
`ElementKind.recordFields` are its fields; `ElementKind.accounts` says that content is nothing but
what its entries say about them.
-/

namespace QuotationPress

open RecordField (Accounts)

/-! ### One record -/

def HeaderContent.recordFields : List (RecordField HeaderContent) :=
  let d : HeaderContent := {}
  [⟨"title", d.title, Lenient.text, title⟩,
    ⟨"subtitle", d.subtitle, Lenient.optional Lenient.text, subtitle⟩,
    ⟨"show_date", d.showDate, Lenient.flag, showDate⟩,
    ⟨"show_quotation_number", d.showQuotationNumber, Lenient.flag, showQuotationNumber⟩,
    ⟨"alignment", d.alignment, Lenient.text, alignment⟩]

def InfoContent.recordFields (d : InfoContent) : List (RecordField InfoContent) :=
  [⟨"title", d.title, Lenient.optional Lenient.text, title⟩,
    ⟨"fields", d.fields, Lenient.listOf InfoLine.check, fields⟩,
    ⟨"layout", d.layout, Lenient.text, layout⟩, ⟨"alignment", d.alignment, Lenient.text, alignment⟩]

def TableContent.recordFields : List (RecordField TableContent) :=
  let d : TableContent := {}
  [⟨"title", d.title, Lenient.optional Lenient.text, title⟩,
    ⟨"rows", d.rows, Lenient.listOf Lenient.list, rows⟩,
    ⟨"columns", d.columns, Columns.check, columns⟩,
    ⟨"show_header", d.showHeader, Lenient.flag, showHeader⟩,
    ⟨"column_widths", d.columnWidths, Lenient.listOf (Lenient.optional Lenient.text), columnWidths⟩,
    ⟨"alternate_rows", d.alternateRows, Lenient.flag, alternateRows⟩]

def TotalsContent.recordFields : List (RecordField TotalsContent) :=
  let d : TotalsContent := {}
  [⟨"title", d.title, Lenient.optional Lenient.text, title⟩,
    ⟨"fields", d.fields, Lenient.listOf TotalsLine.check, fields⟩,
    ⟨"alignment", d.alignment, Lenient.text, alignment⟩]

def TermsContent.recordFields : List (RecordField TermsContent) :=
  let d : TermsContent := {}
  [⟨"title", d.title, Lenient.text, title⟩, ⟨"text", d.text, Lenient.text, text⟩,
    ⟨"default_text", d.defaultText, Lenient.text, defaultText⟩,
    ⟨"show_title", d.showTitle, Lenient.flag, showTitle⟩]

def SignatureContent.recordFields : List (RecordField SignatureContent) :=
  let d : SignatureContent := {}
  [⟨"title", d.title, Lenient.text, title⟩, ⟨"name", d.name, Lenient.text, name⟩,
    ⟨"show_name", d.showName, Lenient.flag, showName⟩,
    ⟨"show_date", d.showDate, Lenient.flag, showDate⟩,
    ⟨"signature_line", d.signatureLine, Lenient.flag, signatureLine⟩,
    ⟨"alignment", d.alignment, Lenient.text, alignment⟩]

def TextContent.recordFields : List (RecordField TextContent) :=
  let d : TextContent := {}
  [⟨"title", d.title, Lenient.optional Lenient.text, title⟩, ⟨"text", d.text, Lenient.text, text⟩]

/-! ### The record of a kind -/

namespace ElementKind

/-- What the content of a kind is kept in. -/
abbrev Record : ElementKind → Type
  | header => HeaderContent
  | companyInfo => InfoContent
  | clientInfo => InfoContent
  | quotationInfo => InfoContent
  | itemsTable => TableContent
  | table => TableContent
  | totals => TotalsContent
  | terms => TermsContent
  | signature => SignatureContent
  | text => TextContent

def content : (k : ElementKind) → k.Record → Content
  | header => .header
  | companyInfo => .info
  | clientInfo => .info
  | quotationInfo => .info
  | itemsTable => .table
  | table => .table
  | totals => .totals
  | terms => .terms
  | signature => .signature
  | text => .text

def readRecord : (k : ElementKind) → Fields → Checked k.Record
  | header => HeaderContent.ofFields
  | companyInfo => InfoContent.ofFields .company
  | clientInfo => InfoContent.ofFields .client
  | quotationInfo => InfoContent.ofFields .quotation
  | itemsTable => TableContent.ofFields
  | table => TableContent.ofFields
  | totals => TotalsContent.ofFields
  | terms => TermsContent.ofFields
  | signature => SignatureContent.ofFields
  | text => TextContent.ofFields

def recordFields : (k : ElementKind) → List (RecordField k.Record)
  | header => HeaderContent.recordFields
  | companyInfo => InfoContent.recordFields .company
  | clientInfo => InfoContent.recordFields .client
  | quotationInfo => InfoContent.recordFields .quotation
  | itemsTable => TableContent.recordFields
  | table => TableContent.recordFields
  | totals => TotalsContent.recordFields
  | terms => TermsContent.recordFields
  | signature => SignatureContent.recordFields
  | text => TextContent.recordFields

open Checked RecordField

/-- The list of fields says all that counts for reading a record of the kind. -/
theorem accounts (k : ElementKind) : Accounts k.recordFields k.readRecord where
  holds fs r := by
    -- a reader in sequence and its fields in the list, field by field
    rw [← value?_eq_some]
    cases k <;>
    · simp only [readRecord, HeaderContent.ofFields, InfoContent.ofFields, TableContent.ofFields,
        TotalsContent.ofFields, TermsContent.ofFields, SignatureContent.ofFields,
        TextContent.ofFields, value?_seq, value?_map, Option.bind_assoc, Option.bind_some,
        Option.bind_eq_some_iff, value?_eq_some, recordFields, HeaderContent.recordFields,
        InfoContent.recordFields, TableContent.recordFields, TotalsContent.recordFields,
        TermsContent.recordFields, SignatureContent.recordFields, TextContent.recordFields,
        List.forall_mem_cons, holds_mk, List.not_mem_nil]
      grind
  isGood fs := by
    cases k <;>
    simp [readRecord, HeaderContent.ofFields, InfoContent.ofFields, TableContent.ofFields,
      TotalsContent.ofFields, TermsContent.ofFields, SignatureContent.ofFields,
      TextContent.ofFields, recordFields, HeaderContent.recordFields, InfoContent.recordFields,
      TableContent.recordFields, TotalsContent.recordFields, TermsContent.recordFields,
      SignatureContent.recordFields, TextContent.recordFields, isGood_optional, isGood_meaning,
      and_assoc]

end ElementKind

theorem Content.ofFields_eq (k : ElementKind) (fs : Fields) :
    ofFields k fs = k.content <$> k.readRecord fs := by
  cases k <;> rfl

end QuotationPress
