import QuotationPress.Yaml.Token
import QuotationPress.Yaml.Cursor

/-!
# The layout of a text while it is taken apart into tokens

A `Layout` knows how far the blocks are indented that are open, how many brackets are, and which
tokens may turn out to be keys: only the colon behind it tells that a text is one, and then the mark
of a key is put in front of it.
-/

namespace QuotationPress.Yaml

/-- A token that is a key if a colon follows. -/
structure PendingKey where
  /-- Within how many brackets it stands. -/
  depth : Nat
  /-- How many tokens stand before it. -/
  number : Nat
  /-- It stands where nothing but a key may stand. -/
  isRequired : Bool
  place : Cursor

/-- A key and its colon stand on one line, and at most so many characters apart. -/
def keyLimit : Nat := 1024

def PendingKey.isStale (k : PendingKey) (c : Cursor) : Bool :=
  k.place.line ≠ c.line || keyLimit < c.index - k.place.index

structure Layout where
  cursor : Cursor
  /-- The column of the innermost open block. -/
  indent : Int := -1
  /-- The columns of the blocks around it. -/
  outer : List Int := []
  /-- How many brackets are open; inside of them columns mean nothing. -/
  depth : Nat := 0
  /-- Whether a key may begin here. -/
  keyAllowed : Bool := true
  /-- At most one for each depth, the deepest first. -/
  pending : List PendingKey := []
  /-- The tokens so far, the last first. -/
  tokens : List Token := []
  count : Nat := 0
  isDone : Bool := false

namespace Layout

def isInBlock (l : Layout) : Bool := l.depth == 0

/-! ### Tokens -/

def put (l : Layout) (t : Token) : Layout :=
  { l with tokens := t :: l.tokens, count := l.count + 1 }

/-- Puts a token behind the first `number` ones. -/
def insert (l : Layout) (number : Nat) (t : Token) : Layout :=
  { l with tokens := l.tokens.insertIdx (l.count - number) t, count := l.count + 1 }

/-- The tokens in front of the first that may turn out to be a key. -/
def settled (l : Layout) : List Token :=
  l.tokens.reverse.take (l.pending.foldl (fun n k => min n k.number) l.count)

/-! ### Keys -/

/-- The token of the present depth that may be a key. -/
def pendingHere? (l : Layout) : Option PendingKey := l.pending.find? fun k => k.depth == l.depth

def withoutPending (l : Layout) : Layout :=
  { l with pending := l.pending.filter fun k => k.depth != l.depth }

/-- No colon follows the token of the present depth any more. -/
def dropPending (l : Layout) : Outcome Layout :=
  if l.pendingHere?.any (·.isRequired) then misplaced else .ok l.withoutPending

/-- Nor one that stands too far back. -/
def dropStale (l : Layout) : Outcome Layout :=
  let (stale, fresh) := l.pending.partition (·.isStale l.cursor)
  if stale.any (·.isRequired) then misplaced else .ok { l with pending := fresh }

/-- The next token may be a key, if one may begin here. -/
def savePending (l : Layout) : Outcome Layout := do
  if !l.keyAllowed then return l
  else
    let l ← l.dropPending
    let isRequired := l.isInBlock && l.indent == l.cursor.column
    return { l with pending := ⟨l.depth, l.count, isRequired, l.cursor⟩ :: l.pending }

/-! ### Blocks -/

/-- Ends the blocks that are indented further than `column`. -/
def closeBlocksFrom (column : Int) : List Int → Layout → Layout
  | [], l => l
  | i :: outer, l =>
    if column < l.indent then
      closeBlocksFrom column outer { l.put .blockEnd with indent := i, outer }
    else l

def closeBlocks (l : Layout) (column : Int) : Layout :=
  if l.isInBlock then closeBlocksFrom column l.outer l else l

/-- Whether a block that begins at `column` is a new one. -/
def opensBlock (l : Layout) (column : Nat) : Bool := l.isInBlock && l.indent < column

def enterBlock (l : Layout) (column : Nat) : Layout :=
  { l with indent := column, outer := l.indent :: l.outer }

/-- Begins a block here unless it goes on. -/
def openBlock (l : Layout) (start : Token) : Layout :=
  let column := l.cursor.column
  if l.opensBlock column then (l.enterBlock column).put start else l

/-! ### Marks -/

/-- Behind `n` characters that make the token `t`. -/
def mark (l : Layout) (n : Nat) (t : Token) : Layout := { l.put t with cursor := l.cursor.skip n }

/-- A mark that begins an item or a key stands where a key might. -/
def startMark (l : Layout) (start t : Token) (keyAfter : Bool) : Outcome Layout := do
  if l.isInBlock && !l.keyAllowed then misplaced
  else return ({ ← (l.openBlock start).dropPending with keyAllowed := keyAfter }).mark 1 t

/-- The colon behind a key. -/
def keyColon (l : Layout) (k : PendingKey) : Layout :=
  let l := l.withoutPending.insert k.number .key
  let l := if l.opensBlock k.place.column then
      (l.enterBlock k.place.column).insert k.number .entriesStart
    else l
  { l with keyAllowed := false }.mark 1 .value

def colon (l : Layout) : Outcome Layout :=
  match l.pendingHere? with
  | some k => .ok (l.keyColon k)
  | none => l.startMark .entriesStart .value l.isInBlock

def openBracket (l : Layout) (t : Token) : Outcome Layout := do
  let l ← l.savePending
  return { l.mark 1 t with depth := l.depth + 1, keyAllowed := true }

def closeBracket (l : Layout) (t : Token) : Outcome Layout := do
  let l ← l.dropPending
  return { l.mark 1 t with depth := l.depth - 1, keyAllowed := false }

def comma (l : Layout) : Outcome Layout := do
  return { ← l.dropPending with keyAllowed := true }.mark 1 .comma

/-- A line that belongs to no block. -/
def leaveBlocks (l : Layout) : Outcome Layout := do
  return { ← (l.closeBlocks (-1)).dropPending with keyAllowed := false }

def documentMark (l : Layout) (t : Token) : Outcome Layout := do
  return (← l.leaveBlocks).mark 3 t

def finish (l : Layout) : Outcome Layout := do
  return { (← l.leaveBlocks).put .streamEnd with pending := [], isDone := true }

/-- A token that may be a key, made by `read`. -/
def keyLike (l : Layout) (read : Cursor → Outcome (Placed Token)) : Outcome Layout := do
  let l ← l.savePending
  let (t, c) ← read l.cursor
  return { l.put t with cursor := c, keyAllowed := false }

end Layout

end QuotationPress.Yaml
