import QuotationPress.Yaml.Cursor

/-!
# Words without quote marks

`Words.read` takes the words at a place: they end before a colon, a comment, a bracket or a line
that is indented too little, and a line break between them becomes a space.
-/

namespace QuotationPress.Yaml

/-- Marks that no word begins with. -/
def reservedMarks : List Char :=
  ['-', '?', ':', ',', '[', ']', '\x7b', '\x7d', '#', '&', '*', '!', '|', '>', '\'', '"', '%', '@',
   Char.ofNat 0x60]

/-- Whether a word begins here. A hyphen may begin one unless a blank follows, and outside of
brackets so may a question mark and a colon. -/
def startsWord (flow : Bool) : List Char → Bool
  | [] => false
  | c :: rest =>
    if isGapNext (c :: rest) then false
    else if !reservedMarks.contains c then true
    else !isGapNext rest && (c == '-' || (!flow && (c == '?' || c == ':')))

def isFlowMark (c : Char) : Bool := [',', '[', ']', '\x7b', '\x7d'].contains c

/-- Whether a word ends before `c`: blanks end it, and so does a colon with a blank behind it.
Between brackets the marks of lists and objects end it, too. -/
def endsWord (flow : Bool) (c : Char) (rest : List Char) : Bool :=
  isBlankChar c || isBreak c
    || (c == ':' && (isGapNext rest || (flow && rest.head?.any isFlowMark)))
    || (flow && (isFlowMark c || c == '?'))

/-- How many characters of a word stand here without a blank. -/
def wordLength (flow : Bool) : List Char → Nat
  | [] => 0
  | c :: rest => if endsWord flow c rest then 0 else wordLength flow rest + 1

/-! ### Between words -/

/-- What stands between two words of one text. -/
structure WordGap where
  /-- What the gap becomes; where it is empty, no other word can follow. -/
  text : List Char
  crossesLine : Bool
  cursor : Cursor

/-- The breaks of empty lines; none where a document ends. -/
def emptyLines : Nat → Cursor → Option (List Char) × Cursor
  | 0, c => (some [], c)
  | fuel + 1, c =>
    match c.rest with
    | ' ' :: _ => emptyLines fuel c.next
    | _ =>
      match c.lineBreak? with
      | none => (some [], c)
      | some (b, c) =>
        if isDocumentMark c.rest then (none, c)
        else
          let (more, c) := emptyLines fuel c
          (more.map (b :: ·), c)

/-- A line feed becomes a space, or the breaks of the empty lines behind it; any other break is kept
before them. -/
def foldedBreaks (first : Char) (more : List Char) : List Char :=
  if first ≠ '\n' then first :: more else if more.isEmpty then [' '] else more

def wordGap (c : Cursor) : WordGap :=
  let (spaces, c) := c.span (· == ' ')
  match c.lineBreak? with
  | none => ⟨spaces, false, c⟩
  | some (b, c) =>
    if isDocumentMark c.rest then ⟨[], true, c⟩
    else match emptyLines c.rest.length c with
    | (some more, c) => ⟨foldedBreaks b more, true, c⟩
    | (none, c) => ⟨[], true, c⟩

/-! ### Words -/

/-- Words, as one text. -/
structure Words where
  text : List Char := []
  /-- Whether the last gap goes on to another line, where a key may begin. -/
  endsLine : Bool
  cursor : Cursor

/-- Takes up the words that follow the gap `gap`. Outside of brackets, lines are indented by `least`
or more. -/
def wordsFrom (flow : Bool) (least : Int) : Nat → WordGap → Words
  | 0, gap => { endsLine := gap.crossesLine, cursor := gap.cursor }
  | fuel + 1, gap =>
    let c := gap.cursor
    let length := if c.rest.head? == some '#' then 0 else wordLength flow c.rest
    if length = 0 then { endsLine := gap.crossesLine, cursor := c }
    else
      let front := gap.text ++ c.rest.take length
      let gap := wordGap (c.skip length)
      if gap.text.isEmpty || gap.cursor.rest.head? == some '#'
          || (!flow && (gap.cursor.column : Int) < least) then
        { text := front, endsLine := gap.crossesLine, cursor := gap.cursor }
      else
        let more := wordsFrom flow least fuel gap
        { more with text := front ++ more.text }

def Words.read (flow : Bool) (least : Int) (c : Cursor) : Words :=
  wordsFrom flow least (c.rest.length + 1) ⟨[], false, c⟩

end QuotationPress.Yaml
