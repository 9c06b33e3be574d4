import QuotationPress.Text.Case
import QuotationPress.Text.Digit

/-!
# Names for the files that documents are saved under

`suggestedFilename` gives a name that ends in `.pdf` and holds letters, digits, low lines, points
and hyphens only.
-/

namespace QuotationPress

namespace Filename

def isPlain (c : Char) : Bool :=
  Text.isAsciiLetter c || Text.isAsciiDigit c || c == '_' || c == '.' || c == '-'

def plainChar (c : Char) : Char := if isPlain c then c else '_'

def endsInPdf (cs : List Char) : Bool := ".pdf".toList.isSuffixOf (Text.lower cs)

def withSuffix (cs : List Char) : List Char := if endsInPdf cs then cs else cs ++ ".pdf".toList

/-- The name of the document of a quotation number. -/
def ofNumber (number : String) : List Char :=
  "ASP_Quotation_".toList ++ (if number = "" then "Draft" else number).toList ++ ".pdf".toList

end Filename

/-- The wish for a name counts if there is one, else the number of the quotation. -/
def suggestedFilename (number : String) (wish : Option String) : String :=
  let cs := match wish with
    | none => Filename.ofNumber number
    | some "" => Filename.ofNumber number
    | some s => Filename.withSuffix s.toList
  String.ofList (cs.map Filename.plainChar)

end QuotationPress
