import QuotationPress.Yaml.Cursor

/-!
# Texts written as blocks of lines

`blockText` reads from behind the mark `|`, which keeps the lines, or `>`, which folds them; the
marks behind it say what becomes of the line breaks at the end and how far the block is indented.
-/

namespace QuotationPress.Yaml

/-- What becomes of the line breaks at the end of a block. -/
inductive Chomping where
  | strip | clip | keep
  deriving DecidableEq

structure BlockHeader where
  chomping : Chomping := .clip
  /-- How far the block is indented more than what it belongs to. -/
  indent : Option Nat := none

/-! ### The line of the mark -/

def chompingOf? (c : Char) : Option Chomping :=
  if c == '-' then some .strip else if c == '+' then some .keep else none

def headerSign? (c : Cursor) : Option Chomping := c.rest.head?.bind chompingOf?

/-- A digit above zero, if a digit stands here. -/
def headerDigit (c : Cursor) : Outcome (Placed (Option Nat)) :=
  match c.rest with
  | d :: _ =>
    if d == '0' then misplaced
    else if '1' ≤ d && d ≤ '9' then .ok (some (d.toNat - 0x30), c.next)
    else .ok (none, c)
  | [] => .ok (none, c)

/-- A sign and a digit in either order; both may be missing. -/
def headerMarks (c : Cursor) : Outcome (Placed BlockHeader) :=
  match headerSign? c with
  | some sign => (headerDigit c.next).map fun (digit, c) => (⟨sign, digit⟩, c)
  | none => do
    let (digit, c) ← headerDigit c
    match headerSign? c with
    | some sign => return (⟨sign, digit⟩, c.next)
    | none => return (⟨.clip, digit⟩, c)

def blockHeader (c : Cursor) : Outcome (Placed BlockHeader) := do
  let (header, c) ← headerMarks c
  if isSpaceNext c.rest then return (header, ← idleLine c) else misplaced

/-! ### The lines -/

/-- Up to `indent` columns of spaces. -/
def skipIndent (indent : Nat) (c : Cursor) : Cursor :=
  c.skip (min (c.rest.takeWhile (· == ' ')).length (indent - c.column))

/-- The breaks of empty lines in a block of known indent. -/
def blockBreaks (indent : Nat) : Nat → Cursor → List Char × Cursor
  | 0, c => ([], c)
  | fuel + 1, c =>
    let c := skipIndent indent c
    match c.lineBreak? with
    | some (b, c) =>
      let (more, c) := blockBreaks indent fuel c
      (b :: more, c)
    | none => ([], c)

/-- The breaks of empty lines before a block, and the greatest indent of these lines and the first
one of the block. -/
def leadingBreaks : Nat → Nat → Cursor → List Char × Nat × Cursor
  | 0, most, c => ([], most, c)
  | fuel + 1, most, c =>
    let c := c.skipSpaces
    let most := max most c.column
    match c.lineBreak? with
    | some (b, c) =>
      let (more, most, c) := leadingBreaks fuel most c
      (b :: more, most, c)
    | none => ([], most, c)

/-- The lines of a block, joined. -/
structure BlockLines where
  text : List Char := []
  /-- The break behind the last line, if there is one. -/
  lastBreak : List Char := []
  /-- The breaks of the empty lines behind it. -/
  breaks : List Char
  cursor : Cursor

def isOpenLine (c : Cursor) : Bool := !(c.rest.head?.any isBlankChar)

/-- Whether a line of a block begins here. -/
def isInBlock (indent : Nat) (c : Cursor) : Bool := c.column == indent && !c.isAtEnd

/-- The lines from here on, the breaks `breaks` standing before them. Folding joins two lines that
both begin with no blank. -/
def blockLines (folds : Bool) (indent : Nat) : Nat → List Char → Cursor → BlockLines
  | 0, breaks, c => { breaks, cursor := c }
  | fuel + 1, breaks, c =>
    if !isInBlock indent c then { breaks, cursor := c }
    else
      let isOpen := isOpenLine c
      let (line, c) := c.span fun ch => !isBreak ch
      let (lastBreak, c) := match c.lineBreak? with
        | some (b, c) => ([b], c)
        | none => ([], c)
      let (more, c) := blockBreaks indent (c.rest.length + 1) c
      let front := breaks ++ line
      if !isInBlock indent c then { text := front, lastBreak, breaks := more, cursor := c }
      else
        let isJoined := folds && lastBreak == ['\n'] && isOpen && isOpenLine c
        let joint := if !isJoined then lastBreak else if more.isEmpty then [' '] else []
        let behind := blockLines folds indent fuel more c
        { behind with text := front ++ joint ++ behind.text }

/-- A block that belongs to something indented by `outer`. -/
def blockText (folds : Bool) (outer : Int) (c : Cursor) : Outcome (Placed (List Char)) := do
  let (header, c) ← blockHeader c
  let least := max (outer + 1).toNat 1
  let (breaks, indent, c) := match header.indent with
    | some n =>
      let (breaks, c) := blockBreaks (least + n - 1) (c.rest.length + 1) c
      (breaks, least + n - 1, c)
    | none =>
      let (breaks, most, c) := leadingBreaks (c.rest.length + 1) 0 c
      (breaks, max least most, c)
  let lines := blockLines folds indent (c.rest.length + 1) breaks c
  let tail := match header.chomping with
    | .strip => []
    | .clip => lines.lastBreak
    | .keep => lines.lastBreak ++ lines.breaks
  return (lines.text ++ tail, lines.cursor)

end QuotationPress.Yaml
