import QuotationPress.Text.Digit
import QuotationPress.Yaml.Words

/-!
# Texts between quote marks

`quotedText` reads from behind the opening mark. Between single quotes a quote is written twice;
between double quotes a backslash begins an escape. In both, a line break with the blanks around it
is folded as between words.
-/

namespace QuotationPress.Yaml

open Text (hexValue?)

/-- Puts characters in front of what is read. -/
def onward (front : List Char) : Outcome (Placed (List Char)) → Outcome (Placed (List Char))
  | .ok (cs, c) => .ok (front ++ cs, c)
  | .error e => .error e

/-! ### Line breaks inside -/

/-- The breaks of the empty lines that follow a break; no document may begin or end here. -/
def innerBreaks : Nat → Cursor → Outcome (Placed (List Char))
  | 0, c => .ok ([], c)
  | fuel + 1, c =>
    if isDocumentMark c.rest then misplaced
    else
      let c := c.skipWhile isBlankChar
      match c.lineBreak? with
      | some (b, c) => onward [b] (innerBreaks fuel c)
      | none => .ok ([], c)

/-- Blanks and line breaks between two parts of a quoted text. -/
def quotedGap (c : Cursor) : Outcome (Placed (List Char)) :=
  let (blanks, c) := c.span isBlankChar
  match c.lineBreak? with
  | some (b, c) => (innerBreaks (c.rest.length + 1) c).map fun (more, c) => (foldedBreaks b more, c)
  | none => if c.isAtEnd then misplaced else .ok (blanks, c)

/-! ### Escapes -/

def simpleEscapes : List (Char × Nat) :=
  [('0', 0), ('a', 7), ('b', 8), ('t', 9), ('\t', 9), ('n', 10), ('v', 11), ('f', 12), ('r', 13),
   ('e', 0x1B), (' ', 0x20), ('"', 0x22), ('\\', 0x5C), ('/', 0x2F), ('N', 0x85), ('_', 0xA0),
   ('L', 0x2028), ('P', 0x2029)]

/-- How many digits follow the letter of a code. -/
def codeLengths : List (Char × Nat) := [('x', 2), ('u', 4), ('U', 8)]

/-- The character of a code. The replacement character stands for half a pair. -/
def charOfCode (n : Nat) : Outcome Char :=
  if n.isValidChar then .ok (Char.ofNat n)
  else if n < 0x110000 then .ok (Char.ofNat 0xFFFD)
  else if n < 0x80000000 then .error .noSuchCharacter
  else .error .numberTooLarge

def hexNumber? (cs : List Char) : Option Nat :=
  cs.foldl (fun n c => do return (← n) * 16 + (← hexValue? c)) (some 0)

/-- What an escape stands for, read from behind its backslash. -/
def escape (c : Cursor) : Outcome (Placed (List Char)) :=
  match c.rest with
  | [] => misplaced
  | e :: rest =>
    match simpleEscapes.lookup e, codeLengths.lookup e with
    | some n, _ => .ok ([Char.ofNat n], c.next)
    | none, some length =>
      let digits := rest.take length
      match if digits.length = length then hexNumber? digits else none with
      | some n => (charOfCode n).map fun ch => ([ch], c.next.skip length)
      | none => misplaced
    | none, none =>
      match c.lineBreak? with
      | some (_, c) => innerBreaks (c.rest.length + 1) c
      | none => misplaced

/-! ### Quoted texts -/

/-- The text up to the closing mark `mark`, and the place behind it. -/
def quotedFrom (mark : Char) : Nat → Cursor → Outcome (Placed (List Char))
  | 0, _ => misplaced
  | fuel + 1, c =>
    match c.rest with
    | [] => misplaced
    | ch :: rest =>
      if ch == mark then
        if mark == '\'' && rest.head? == some '\''
          then onward ['\''] (quotedFrom mark fuel (c.skip 2))
        else .ok ([], c.next)
      else if ch == '\\' && mark == '"' then
        match escape c.next with
        | .ok (cs, c) => onward cs (quotedFrom mark fuel c)
        | .error e => .error e
      else if isBlankChar ch || isBreak ch then
        match quotedGap c with
        | .ok (cs, c) => onward cs (quotedFrom mark fuel c)
        | .error e => .error e
      else onward [ch] (quotedFrom mark fuel c.next)

def quotedText (mark : Char) (c : Cursor) : Outcome (Placed (List Char)) :=
  quotedFrom mark (c.rest.length + 1) c

end QuotationPress.Yaml
