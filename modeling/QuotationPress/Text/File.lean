import QuotationPress.Text.Split

/-!
# Files of a directory, each with its path and its text

`TextFile.stem` is the name without its suffix, and `TextFile.pathBefore` the order in which files
are read.
-/

namespace QuotationPress

/-- A file by its path, the parts joined by slashes, and its text. A file whose bytes are no text
has no counterpart here. -/
structure TextFile where
  path : String
  text : String
  deriving Repr, DecidableEq

namespace TextFile

def parts (f : TextFile) : List String := Text.splitAt '/' f.path

def name (f : TextFile) : String := f.parts.getLast?.getD ""

/-- Where the last point of a name stands, if it ends in a suffix: the point is neither its first
nor its last character. -/
def splitSuffix? (name : List Char) : Option (List Char × List Char) :=
  let suffix := (name.reverse.takeWhile (· ≠ '.')).reverse
  let stem := name.take (name.length - suffix.length - 1)
  if name.contains '.' && !suffix.isEmpty && !stem.isEmpty then some (stem, suffix) else none

/-- The name without its suffix. -/
def stem (f : TextFile) : String :=
  match splitSuffix? f.name.toList with
  | some (stem, _) => String.ofList stem
  | none => f.name

/-- Whether the name ends in one of the two suffixes of data files. -/
def isDataFile (f : TextFile) : Bool := f.name.endsWith ".yaml" || f.name.endsWith ".yml"

/-- The order of paths, part by part. -/
def pathBefore : List String → List String → Bool
  | [], _ => true
  | _ :: _, [] => false
  | a :: as, b :: bs => if a = b then pathBefore as bs else a < b

end TextFile

end QuotationPress
