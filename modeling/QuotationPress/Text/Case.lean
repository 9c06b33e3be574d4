import QuotationPress.Text.CaseTable
import QuotationPress.Text.Ranges

/-!
# Case maps for text of any script

`lower` and `upper` map whole texts: one character may become several, and a Greek sigma becomes a
final sigma at the end of a word. `asciiLower` touches the letters `A` to `Z` only.
-/

namespace QuotationPress.Text

def CaseRun.image? (r : CaseRun) (n : Nat) : Option Nat :=
  if r.first ≤ n && n ≤ r.last && (n - r.first) % r.step == 0 then some (r.target + (n - r.first))
  else none

def mapByRuns (runs : List CaseRun) (c : Char) : Char :=
  match runs.findSome? (·.image? c.toNat) with
  | some n => Char.ofNat n
  | none => c

/-- A dotted capital I becomes two characters, the small letter and a combining dot. -/
def lowerChar (c : Char) : List Char :=
  if c.toNat = 0x130 then [Char.ofNat 0x69, Char.ofNat 0x307] else [mapByRuns lowerRuns c]

def upperChar (c : Char) : List Char :=
  match upperExpansions.lookup c.toNat with
  | some ns => ns.map Char.ofNat
  | none => [mapByRuns upperRuns c]

def isCased (c : Char) : Bool := inRanges casedRanges c

def isSkipped (c : Char) : Bool := inRanges skippedRanges c

/-- Whether the nearest character that is not skipped has a case. -/
def meetsCased (cs : List Char) : Bool :=
  match cs.dropWhile isSkipped with
  | [] => false
  | c :: _ => isCased c

/-- A sigma is final when a cased letter stands before it and none after it. -/
def isFinalSigma (before after : List Char) : Bool := meetsCased before && !meetsCased after

/-- `lowerAfter before cs` maps `cs`, the characters of `before` standing in front, nearest
first. -/
def lowerAfter (before : List Char) : List Char → List Char
  | [] => []
  | c :: rest =>
    (if c.toNat = 0x3A3 then [Char.ofNat (if isFinalSigma before rest then 0x3C2 else 0x3C3)]
      else lowerChar c) ++ lowerAfter (c :: before) rest

def lower (cs : List Char) : List Char := lowerAfter [] cs

def upper (cs : List Char) : List Char := cs.flatMap upperChar

def toLower (s : String) : String := String.ofList (lower s.toList)

def toUpper (s : String) : String := String.ofList (upper s.toList)

def asciiLowerChar (c : Char) : Char :=
  if 'A' ≤ c && c ≤ 'Z' then Char.ofNat (c.toNat + 32) else c

def asciiLower (s : String) : String := String.ofList (s.toList.map asciiLowerChar)

end QuotationPress.Text
