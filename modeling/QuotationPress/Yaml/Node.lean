import QuotationPress.Yaml.Stamp
import QuotationPress.Yaml.TokenStream

/-!
# The tree of a data file

A `Node` is a text, a list or an object with what it is meant to be; `Node.ofTokens?` builds the
tree of the one document that a file may hold. A part may bear a name, and the name stands for the
part from there on.
-/

namespace QuotationPress.Yaml

inductive Node where
  | text (tag : Tag) (s : String)
  | list (tag : Tag) (items : List Node)
  | object (tag : Tag) (entries : List (Node × Node))
  /-- A list or an object once more, inside of itself. -/
  | loop
  deriving Inhabited

namespace Node

/-- What stands for nothing. -/
def empty : Node := text .null ""

def tag : Node → Tag
  | text t _ => t
  | list t _ => t
  | object t _ => t
  | loop => .unknown

end Node

/-! ### Going through tokens -/

/-- What is left of a file, the parts that bear names so far, and how many lists and objects the
next part lies in. -/
structure Growth where
  stream : TokenStream
  named : List (String × Node) := []
  depth : Nat := 0

/-- Builds something out of the tokens ahead. -/
abbrev Building := StateT Growth Outcome

namespace Building

def fail {α : Type} (flaw : TextFlaw) : Building α := throw (.unreadableFile flaw)

/-- The next token. -/
def peek : Building Token := do
  let s := (← get).stream
  match s.ahead with
  | t :: _ => return t
  | [] => throw s.failure

/-- Behind the next token. -/
def skip : Building Unit :=
  modify fun g => { g with stream := { g.stream with ahead := g.stream.ahead.drop 1 } }

def isNext (ts : List Token) : Building Bool := do return ts.contains (← peek)

/-- Skips the next token if it is `t`. -/
def skipIf (t : Token) : Building Bool := do
  if (← peek) = t then
    skip
    return true
  else return false

/-- Skips the next token, which has to be `t`. -/
def expect (t : Token) : Building Unit := do
  if !(← skipIf t) then fail .brokenStructure

/-! ### Names and tags -/

def find (name : String) : Building Node := do
  match (← get).named.lookup name with
  | some n => return n
  | none => fail .unknownAlias

def remember (name : Option String) (n : Node) : Building Unit :=
  modify fun g => { g with named := name.toList.map (·, n) ++ g.named }

/-- A part of a file bears the name `name`, if any; no other part may. -/
def claim (name : Option String) : Building Unit := do
  match name with
  | none => return
  | some s => if ((← get).named.lookup s).isSome then fail .repeatedAnchor else return

/-- How the tags begin that have a handle. -/
abbrev Handles := List (String × String)

def commonHandles : Handles := [("!", "!"), ("!!", Tag.commonStart)]

def fullTag (handles : Handles) (handle : Option String) (suffix : String) : Building String := do
  match handle with
  | none => return suffix
  | some h =>
    match handles.lookup h with
    | some start => return start ++ suffix
    | none => fail .brokenStructure

/-- Name and tag of a part. -/
structure Properties where
  name : Option String := none
  tag : Option String := none

def Properties.isEmpty (p : Properties) : Bool := p.name.isNone && p.tag.isNone

/-- What a text is meant to be; a lone exclamation mark leaves it open, and so does no tag at all on
a word without quote marks. -/
def Properties.textTag (p : Properties) (s : String) (isPlain : Bool) : Tag :=
  match p.tag with
  | none => if isPlain then Tag.ofWord s else .text
  | some t => if t = "!" then Tag.ofWord s else Tag.ofUri t

def Properties.groupTag (p : Properties) (usual : Tag) : Tag :=
  match p.tag with
  | none => usual
  | some t => if t = "!" then usual else Tag.ofUri t

/-- A name and a tag in either order; both may be missing. -/
def properties (handles : Handles) : Building Properties := do
  match ← peek with
  | .anchor name =>
    skip
    match ← peek with
    | .tag handle suffix =>
      skip
      return { name, tag := ← fullTag handles handle suffix }
    | _ => return { name }
  | .tag handle suffix =>
    skip
    match ← peek with
    | .anchor name =>
      skip
      return { name, tag := ← fullTag handles handle suffix }
    | _ => return { tag := ← fullTag handles handle suffix }
  | _ => return {}

/-! ### Nodes -/

/-- How deep lists and objects may be nested. -/
def depthLimit : Nat := 480

/-- Builds a list or an object. -/
def nested (build : Building Node) : Building Node := do
  let depth := (← get).depth
  if depthLimit ≤ depth then throw .nestedTooDeep
  modify fun g => { g with depth := depth + 1 }
  let n ← build
  modify fun g => { g with depth }
  return n

/-- A list or an object: while it is built, its name stands for the whole that is not there yet. -/
def group (name : Option String) (build : Building Node) : Building Node := do
  claim name
  remember name .loop
  let n ← nested build
  remember name n
  return n

def single (name : Option String) (n : Node) : Building Node := do
  claim name
  remember name n
  return n

/-- The tokens that may follow a key or a value in a block, there being none. -/
def entryEnds : List Token := [.key, .value, .blockEnd]

mutual

/-- A part of a file. Only outside of brackets it may be a block, and only in an object may the
items of a list stand without a block of their own. -/
def node (handles : Handles) : Nat → Bool → Bool → Building Node
  | 0, _, _ => fail .brokenStructure
  | fuel + 1, inBlock, isEntry => do
    match ← peek with
    | .alias name =>
      skip
      find name
    | _ =>
      let p ← properties handles
      match ← peek with
      | .scalar s isPlain =>
        skip
        single p.name (.text (p.textTag s isPlain) s)
      | .listStart =>
        skip
        group p.name (do return .list (p.groupTag .list) (← flowItems handles fuel true))
      | .mapStart =>
        skip
        group p.name (do return .object (p.groupTag .object) (← flowEntries handles fuel true))
      | t =>
        if isEntry && t = .item then
          group p.name (do return .list (p.groupTag .list) (← looseItems handles fuel))
        else if inBlock && t = .itemsStart then
          skip
          group p.name (do return .list (p.groupTag .list) (← blockItems handles fuel))
        else if inBlock && t = .entriesStart then
          skip
          group p.name (do return .object (p.groupTag .object) (← blockEntries handles fuel))
        else if p.isEmpty then fail .brokenStructure
        else single p.name (.text (p.textTag "" true) "")

/-- A part, or nothing if one of the tokens `ends` comes next. -/
def nodeUnless (handles : Handles) : Nat → List Token → Bool → Bool → Building Node
  | 0, _, _, _ => fail .brokenStructure
  | fuel + 1, ends, inBlock, isEntry => do
    if ← isNext ends then return .empty else node handles fuel inBlock isEntry

/-- The items of a block and its end. -/
def blockItems (handles : Handles) : Nat → Building (List Node)
  | 0 => fail .brokenStructure
  | fuel + 1 => do
    if ← skipIf .item then
      let n ← nodeUnless handles fuel [.item, .blockEnd] true false
      return n :: (← blockItems handles fuel)
    else
      expect .blockEnd
      return []

/-- The items of a list that is as far indented as the key in front of it. -/
def looseItems (handles : Handles) : Nat → Building (List Node)
  | 0 => fail .brokenStructure
  | fuel + 1 => do
    if ← skipIf .item then
      let n ← nodeUnless handles fuel (.item :: entryEnds) true false
      return n :: (← looseItems handles fuel)
    else return []

/-- The entries of a block and its end. -/
def blockEntries (handles : Handles) : Nat → Building (List (Node × Node))
  | 0 => fail .brokenStructure
  | fuel + 1 => do
    if ← skipIf .key then
      let k ← nodeUnless handles fuel entryEnds true true
      let v ← valueAfter handles fuel entryEnds true
      return (k, v) :: (← blockEntries handles fuel)
    else
      expect .blockEnd
      return []

/-- The value of a key, nothing if no colon follows. -/
def valueAfter (handles : Handles) : Nat → List Token → Bool → Building Node
  | 0, _, _ => fail .brokenStructure
  | fuel + 1, ends, inBlock => do
    if ← skipIf .value then nodeUnless handles fuel ends inBlock inBlock else return .empty

/-- The items of a list in brackets. A key makes an item an object of one entry. -/
def flowItems (handles : Handles) : Nat → Bool → Building (List Node)
  | 0, _ => fail .brokenStructure
  | fuel + 1, isFirst => do
    if ← skipIf .listEnd then return []
    else
      if !isFirst then expect .comma
      if ← skipIf .key then
        let n ← nested (do
          let k ← nodeUnless handles fuel [.value, .comma, .listEnd] false false
          let v ← valueAfter handles fuel [.comma, .listEnd] false
          return .object .object [(k, v)])
        return n :: (← flowItems handles fuel false)
      else if ← skipIf .listEnd then return []
      else
        let n ← node handles fuel false false
        return n :: (← flowItems handles fuel false)

/-- The entries of an object in braces. -/
def flowEntries (handles : Handles) : Nat → Bool → Building (List (Node × Node))
  | 0, _ => fail .brokenStructure
  | fuel + 1, isFirst => do
    if ← skipIf .mapEnd then return []
    else
      if !isFirst then expect .comma
      if ← skipIf .key then
        let k ← nodeUnless handles fuel [.value, .comma, .mapEnd] false false
        let v ← valueAfter handles fuel [.comma, .mapEnd] false
        return (k, v) :: (← flowEntries handles fuel false)
      else if ← skipIf .mapEnd then return []
      else
        let k ← node handles fuel false false
        return (k, .empty) :: (← flowEntries handles fuel false)

end

/-! ### Documents -/

/-- The handles that the lines before a document declare. -/
def directives : Nat → Bool → Handles → Building Handles
  | 0, _, handles => return handles
  | fuel + 1, hasVersion, handles => do
    match ← peek with
    | .directive d =>
      skip
      match d with
      | .version major =>
        if hasVersion || major ≠ 1 then fail .brokenStructure
        else directives fuel true handles
      | .handle handle start =>
        if (handles.lookup handle).isSome then fail .brokenStructure
        else directives fuel hasVersion ((handle, start) :: handles)
      | .other => directives fuel hasVersion handles
    | _ => return handles

/-- The beginning of a document that is marked as one. -/
def opening (fuel : Nat) : Building Handles := do
  let handles ← directives fuel false []
  expect .documentStart
  return handles ++ commonHandles

/-- The root of a marked document. -/
def content (fuel : Nat) (handles : Handles) : Building Node := do
  match ← peek with
  | .directive _ | .documentStart | .documentEnd | .streamEnd => return .empty
  | _ => node handles fuel true false

def skipEnds : Nat → Building Unit
  | 0 => return
  | fuel + 1 => do if ← skipIf .documentEnd then skipEnds fuel

/-- Nothing but marks of its end may follow a document. -/
def closing (fuel : Nat) : Building Unit := do
  skipEnds fuel
  if (← peek) ≠ .streamEnd then
    let _ ← opening fuel
    fail .severalDocuments

/-- The root of the document, if there is one. -/
def document (fuel : Nat) : Building (Option Node) := do
  match ← peek with
  | .streamEnd => return none
  | .directive _ | .documentStart =>
    let n ← content fuel (← opening fuel)
    closing fuel
    return some n
  | _ =>
    let n ← node commonHandles fuel true false
    closing fuel
    return some n

end Building

/-- The tree of a document; each step down takes up a token, or leads to one that does. -/
def Node.ofTokens? (s : TokenStream) : Outcome (Option Node) :=
  (Building.document (3 * s.ahead.length + 3)).run' { stream := s }

end QuotationPress.Yaml
