import QuotationPress.Failure

/-!
# Places in the text of a data file

A `Cursor` is what lies ahead, with the line and the column where it begins; `Cursor.span` and
`Cursor.lineBreak?` read at it.
-/

namespace QuotationPress.Yaml

/-! ### Characters -/

/-- The characters that end a line. -/
def isBreak (c : Char) : Bool :=
  c == '\n' || c.toNat == 0x85 || c.toNat == 0x2028 || c.toNat == 0x2029

def isBlankChar (c : Char) : Bool := c == ' ' || c == '\t'

/-- The end of a line or of the text comes next. -/
def isLineEnd : List Char → Bool
  | [] => true
  | c :: _ => isBreak c

/-- A space, the end of a line or the end of the text comes next. -/
def isSpaceNext : List Char → Bool
  | [] => true
  | c :: _ => c == ' ' || isBreak c

/-- Like `isSpaceNext`, tabs counting as spaces. -/
def isGapNext : List Char → Bool
  | [] => true
  | c :: _ => isBlankChar c || isBreak c

/-- A mark that begins or ends a document, at the beginning of a line. -/
def isDocumentMark (cs : List Char) : Bool :=
  (cs.take 3 == "---".toList || cs.take 3 == "...".toList) && isGapNext (cs.drop 3)

/-! ### Places -/

structure Cursor where
  rest : List Char
  index : Nat := 0
  line : Nat := 0
  column : Nat := 0

namespace Cursor

/-- Behind the next character. A byte order mark takes up no column. -/
def next (c : Cursor) : Cursor :=
  match c.rest with
  | [] => c
  | ch :: rest =>
    if isBreak ch then ⟨rest, c.index + 1, c.line + 1, 0⟩
    else ⟨rest, c.index + 1, c.line, if ch.toNat = 0xFEFF then c.column else c.column + 1⟩

def skip : Nat → Cursor → Cursor
  | 0, c => c
  | n + 1, c => skip n c.next

/-- The characters ahead that all have a property, and the place behind them. -/
def span (p : Char → Bool) (c : Cursor) : List Char × Cursor :=
  let cs := c.rest.takeWhile p
  (cs, c.skip cs.length)

def skipWhile (p : Char → Bool) (c : Cursor) : Cursor := (c.span p).2

def skipSpaces (c : Cursor) : Cursor := c.skipWhile (· == ' ')

/-- Behind the comment that begins here, if one does. -/
def skipComment (c : Cursor) : Cursor :=
  match c.rest with
  | '#' :: _ => c.skipWhile fun ch => !isBreak ch
  | _ => c

/-- The line break ahead, in the form in which a text keeps it. -/
def lineBreak? (c : Cursor) : Option (Char × Cursor) :=
  match c.rest with
  | ch :: _ =>
    if isBreak ch then some (if ch.toNat = 0x85 then '\n' else ch, c.next) else none
  | [] => none

def isAtEnd (c : Cursor) : Bool := c.rest.isEmpty

end Cursor

/-- What was read at a place, and the place behind it. -/
abbrev Placed (α : Type) := α × Cursor

/-- A character or a mark stands where none of its kind may stand. -/
def misplaced {α : Type} : Outcome α := .error (.unreadableFile .misplacedMark)

/-- The rest of a line on which only a comment may stand. -/
def idleLine (c : Cursor) : Outcome Cursor :=
  let c := c.skipSpaces.skipComment
  if !isLineEnd c.rest then misplaced
  else match c.lineBreak? with
  | some (_, c) => .ok c
  | none => .ok c

end QuotationPress.Yaml
