import QuotationPress.Text.Blank
import QuotationPress.Text.Case
import QuotationPress.Value.Text

/-!
# The kinds of element that a template is composed of

`ElementKind.tag` is the word for a kind, `ElementKind.ofTag?` reads a tag in any letter case, with
blanks around it, or in one of the older spellings.
-/

namespace QuotationPress

inductive ElementKind where
  | header
  | companyInfo
  | clientInfo
  | quotationInfo
  | itemsTable
  | totals
  | terms
  | signature
  | text
  | table
  deriving Repr, DecidableEq

namespace ElementKind

def all : List ElementKind :=
  [header, companyInfo, clientInfo, quotationInfo, itemsTable, totals, terms, signature,
    text, table]

def tag : ElementKind → String
  | header => "header"
  | companyInfo => "company_info"
  | clientInfo => "client_info"
  | quotationInfo => "quotation_info"
  | itemsTable => "items_table"
  | totals => "totals"
  | terms => "terms"
  | signature => "signature"
  | text => "text"
  | table => "table"

/-- Tags of older templates. -/
def olderTags : List (String × ElementKind) :=
  [("custom_text", text), ("section", text), ("content", text), ("customer", clientInfo),
   ("field", quotationInfo), ("total", totals)]

def ofPlainTag? (s : String) : Option ElementKind :=
  (all.find? fun k => k.tag == s).or (olderTags.lookup s)

def ofTag? (s : String) : Option ElementKind := ofPlainTag? (Text.toLower (Text.strip s))

/-- The kind that a tag of any type of value names. -/
def ofValue? (v : Value) : Outcome (Option ElementKind) :=
  if v.isTruthy then do return ofTag? (← v.text) else .ok none

def isTable (k : ElementKind) : Bool := k == itemsTable || k == table

end ElementKind

end QuotationPress
