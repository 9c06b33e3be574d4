import QuotationPress.Yaml.BlockText
import QuotationPress.Yaml.Layout
import QuotationPress.Yaml.Property
import QuotationPress.Yaml.Quoted

/-!
# A text as tokens

`TokenStream.ofText` takes a text apart; where that fails, the tokens in front of the failure
remain, for a reader may find another one among them.
-/

namespace QuotationPress.Yaml

namespace Layout

/-! ### Between tokens -/

/-- Skips spaces, comments and line breaks. Outside of brackets a key may begin a line. -/
def skipIdle : Nat → Layout → Layout
  | 0, l => l
  | fuel + 1, l =>
    let c := l.cursor.skipSpaces.skipComment
    match c.lineBreak? with
    | some (_, c) => skipIdle fuel { l with cursor := c, keyAllowed := l.keyAllowed || l.isInBlock }
    | none => { l with cursor := c }

/-- A byte order mark may stand at the beginning of a text. -/
def skipByteMark (l : Layout) : Layout :=
  if l.cursor.index = 0 && l.cursor.rest.head? == some (Char.ofNat 0xFEFF) then
    { l with cursor := l.cursor.next }
  else l

/-- Goes to the next token and ends the blocks that it does not belong to. -/
def advance (l : Layout) : Outcome Layout := do
  let l := l.skipByteMark
  let l ← (skipIdle (l.cursor.rest.length + 1) l).dropStale
  return l.closeBlocks l.cursor.column

/-! ### Tokens of several characters -/

def directiveLine (l : Layout) : Outcome Layout := do
  let l ← l.leaveBlocks
  let (d, c) ← directive l.cursor.next
  return { l.put (.directive d) with cursor := c }

/-- A name behind its mark. -/
def name (l : Layout) (t : String → Token) : Outcome Layout :=
  l.keyLike fun c => (anchorName c.next).map fun (s, c) => (t s, c)

def quoted (l : Layout) (mark : Char) : Outcome Layout :=
  l.keyLike fun c => (quotedText mark c.next).map fun (cs, c) =>
    (.scalar (String.ofList cs) false, c)

/-- A block of lines; a key may follow. -/
def lines (l : Layout) (folds : Bool) : Outcome Layout := do
  let l ← l.dropPending
  let (cs, c) ← blockText folds l.indent l.cursor.next
  return { l.put (.scalar (String.ofList cs) false) with cursor := c, keyAllowed := true }

/-- Words; a key may follow in the next line. -/
def words (l : Layout) : Outcome Layout := do
  let l ← l.savePending
  let w := Words.read (!l.isInBlock) (l.indent + 1) l.cursor
  return { l.put (.scalar (String.ofList w.text) true) with
    cursor := w.cursor, keyAllowed := w.endsLine }

/-! ### One token -/

/-- The token that begins with a mark, in as far as it depends on nothing else. -/
def marked? (l : Layout) (c : Char) (rest : List Char) : Option (Outcome Layout) :=
  let isAlone := !l.isInBlock || isGapNext rest
  if c == '[' then some (l.openBracket .listStart)
  else if c == '\x7b' then some (l.openBracket .mapStart)
  else if c == ']' then some (l.closeBracket .listEnd)
  else if c == '\x7d' then some (l.closeBracket .mapEnd)
  else if c == ',' then some l.comma
  else if c == '-' && isGapNext rest then some (l.startMark .itemsStart .item true)
  else if c == '?' && isAlone then some (l.startMark .entriesStart .key l.isInBlock)
  else if c == ':' && isAlone then some l.colon
  else if c == '*' then some (l.name .alias)
  else if c == '&' then some (l.name .anchor)
  else if c == '!' then some (l.keyLike tagToken)
  else if c == '|' && l.isInBlock then some (l.lines false)
  else if c == '>' && l.isInBlock then some (l.lines true)
  else if c == '\'' || c == '"' then some (l.quoted c)
  else none

/-- Takes up the token at the cursor. -/
def token (l : Layout) : Outcome Layout :=
  let ahead := l.cursor.rest
  match ahead with
  | [] => l.finish
  | c :: rest =>
    let isFirst := l.cursor.column = 0
    if isFirst && c == '%' then l.directiveLine
    else if isFirst && isDocumentMark ahead then
      l.documentMark (if c == '-' then .documentStart else .documentEnd)
    else match l.marked? c rest with
    | some taken => taken
    | none => if startsWord (!l.isInBlock) ahead then l.words else misplaced

/-- The next token, with the ends of blocks in front of it. -/
def step (l : Layout) : Outcome Layout := do
  let l ← (← l.advance).token
  if l.isDone then return l else l.dropStale

end Layout

/-! ### All tokens -/

/-- Tokens, and the failure behind the last of them. -/
structure TokenStream where
  ahead : List Token
  flaw : Option Failure := none

namespace TokenStream

/-- Each step reads a character, or it is the last one. -/
def fromLayout : Nat → Layout → TokenStream
  | 0, l => { ahead := l.settled }
  | fuel + 1, l =>
    match l.step with
    | .error f => { ahead := l.settled, flaw := some f }
    | .ok next => if next.isDone then { ahead := next.tokens.reverse } else fromLayout fuel next

def ofText (cs : List Char) : TokenStream := fromLayout (cs.length + 2) { cursor := { rest := cs } }

/-- The failure of a reader that wants more tokens than there are. -/
def failure (s : TokenStream) : Failure := s.flaw.getD (.unreadableFile .brokenStructure)

end TokenStream

end QuotationPress.Yaml
