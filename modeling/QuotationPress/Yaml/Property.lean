import QuotationPress.Text.Digit
import QuotationPress.Text.Utf8
import QuotationPress.Yaml.Cursor
import QuotationPress.Yaml.Token

/-!
# Names, tags and directives

Names and tags stand before a part of a text and say something of it; directives are lines before a
document. `anchorName`, `tagToken` and `directive` each read one of them.
-/

namespace QuotationPress.Yaml

open Text (isAsciiDigit isAsciiLetter hexValue?)

def isNameChar (c : Char) : Bool := isAsciiDigit c || isAsciiLetter c || c == '-' || c == '_'

/-! ### Names -/

/-- The marks that may stand right behind a name. -/
def nameEnds : List Char := ['?', ':', ',', ']', '\x7d', '%', '@', Char.ofNat 0x60]

def anchorName (c : Cursor) : Outcome (Placed String) :=
  let (name, c) := c.span isNameChar
  if name.isEmpty then misplaced
  else if isGapNext c.rest || c.rest.head?.any nameEnds.contains then .ok (String.ofList name, c)
  else misplaced

/-! ### Tags -/

def uriMarks : List Char :=
  ['-', ';', '/', '?', ':', '@', '&', '=', '+', '$', ',', '_', '.', '!', '~', '*', '\'', '(', ')',
   '[', ']']

def isUriChar (c : Char) : Bool := isAsciiDigit c || isAsciiLetter c || uriMarks.contains c

/-- The bytes of the escapes that follow one another here: each is a percent sign and two digits. -/
def escapedBytes : Nat → Cursor → Outcome (Placed (List UInt8))
  | 0, c => .ok ([], c)
  | fuel + 1, c =>
    match c.rest with
    | '%' :: high :: low :: _ =>
      match hexValue? high, hexValue? low with
      | some h, some l =>
        (escapedBytes fuel (c.skip 3)).map fun (bytes, c) => (UInt8.ofNat (h * 16 + l) :: bytes, c)
      | _, _ => misplaced
    | '%' :: _ => misplaced
    | _ => .ok ([], c)

/-- The characters of a tag and its escapes. -/
def uriChars : Nat → Cursor → Outcome (Placed (List Char))
  | 0, c => .ok ([], c)
  | fuel + 1, c =>
    let (front, c) := c.span isUriChar
    if c.rest.head? ≠ some '%' then .ok (front, c)
    else do
      let (bytes, c) ← escapedBytes fuel c
      match Text.utf8Chars? bytes with
      | some cs =>
        let (more, c) ← uriChars fuel c
        return (front ++ cs ++ more, c)
      | none => misplaced

def uri (c : Cursor) : Outcome (Placed String) := do
  if !c.rest.head?.any (fun ch => isUriChar ch || ch == '%') then misplaced
  else
    let (cs, c) ← uriChars (c.rest.length + 1) c
    return (String.ofList cs, c)

/-- An exclamation mark, or a name between two of them. -/
def tagHandle (c : Cursor) : Outcome (Placed String) :=
  match c.rest with
  | '!' :: ' ' :: _ => .ok ("!", c.next)
  | '!' :: rest =>
    let name := rest.takeWhile isNameChar
    if (rest.drop name.length).head? = some '!' then
      .ok (String.ofList ('!' :: name ++ ['!']), c.skip (name.length + 2))
    else misplaced
  | _ => misplaced

/-- The handle and the suffix of a tag from its exclamation mark on. A tag in angle brackets and the
mark alone have no handle. -/
def tagParts (c : Cursor) : Outcome (Placed (Option String × String)) :=
  match c.rest.drop 1 with
  | '<' :: _ => do
    let (suffix, c) ← uri (c.skip 2)
    if c.rest.head? = some '>' then return ((none, suffix), c.next) else misplaced
  | ahead =>
    if isGapNext ahead then .ok ((none, "!"), c.next)
    else do
      let word := ahead.takeWhile fun ch => ch ≠ ' ' && !isBreak ch
      let (handle, c) ← if word.contains '!' then tagHandle c else .ok ("!", c.next)
      let (suffix, c) ← uri c
      return ((some handle, suffix), c)

def tagToken (c : Cursor) : Outcome (Placed Token) := do
  let ((handle, suffix), c) ← tagParts c
  if isSpaceNext c.rest then return (.tag handle suffix, c) else misplaced

/-! ### Lines before a document -/

def versionNumber (c : Cursor) : Outcome (Placed Nat) :=
  let (digits, c) := c.span isAsciiDigit
  if digits.isEmpty then misplaced
  else if numeralLimit < digits.length then .error (.numeralTooLongToRead digits.length)
  else .ok (numeralValue digits, c)

def versionDirective (c : Cursor) : Outcome (Placed Directive) := do
  let (major, c) ← versionNumber c.skipSpaces
  if c.rest.head? ≠ some '.' then misplaced
  else
    let (_, c) ← versionNumber c.next
    if isSpaceNext c.rest then return (.version major, c) else misplaced

def handleDirective (c : Cursor) : Outcome (Placed Directive) := do
  let (handle, c) ← tagHandle c.skipSpaces
  if c.rest.head? ≠ some ' ' then misplaced
  else
    let (start, c) ← uri c.skipSpaces
    if isSpaceNext c.rest then return (.handle handle start, c) else misplaced

/-- The rest of a line that begins with a percent sign. -/
def directive (c : Cursor) : Outcome (Placed Directive) := do
  let (name, c) := c.span isNameChar
  if name.isEmpty || !isSpaceNext c.rest then misplaced
  else
    let (d, c) ←
      if name = "YAML".toList then versionDirective c
      else if name = "TAG".toList then handleDirective c
      else .ok (.other, c.skipWhile fun ch => !isBreak ch)
    return (d, ← idleLine c)

end QuotationPress.Yaml
