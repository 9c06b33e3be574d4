import QuotationPress.Value.Text

/-!
# JSON texts

`Json.read?` reads a text and `Value.toJson` writes a value. The reader also takes the words `NaN`,
`Infinity` and `-Infinity`, keeps whole numbers apart from floating point numbers, and refuses
numerals beyond the numeral limit. The writer uses ASCII only, and it refuses what JSON has no form
for.
-/

namespace QuotationPress

namespace Json

open Text (isAsciiDigit hexValue?)

/-! ### Reading -/

def isSpace (c : Char) : Bool := c == ' ' || c == '\t' || c == '\n' || c == '\r'

def skipSpaces (cs : List Char) : List Char := cs.dropWhile isSpace

/-- The number that four hexadecimal digits spell. -/
def readUnit? : List Char → Option (Nat × List Char)
  | a :: b :: c :: d :: rest => do
    let a ← hexValue? a
    let b ← hexValue? b
    let c ← hexValue? c
    let d ← hexValue? d
    return (((a * 16 + b) * 16 + c) * 16 + d, rest)
  | _ => none

/-- The character of a code point. Half a pair, which a JSON text can name, is no character of a
text here; the replacement character stands for each of them. -/
def charOfUnit (n : Nat) : Char := if n.isValidChar then Char.ofNat n else Char.ofNat 0xFFFD

/-- The character after `\u`: one unit, or a high and a low unit that make a pair. -/
def readEscapedUnit? (cs : List Char) : Option (Char × List Char) :=
  match readUnit? cs with
  | none => none
  | some (high, rest) =>
    if 0xD800 ≤ high && high ≤ 0xDBFF then
      match rest with
      | '\\' :: 'u' :: more =>
        match readUnit? more with
        | none => none
        | some (low, after) =>
          if 0xDC00 ≤ low && low ≤ 0xDFFF then
            some (Char.ofNat (0x10000 + (high - 0xD800) * 0x400 + (low - 0xDC00)), after)
          else some (charOfUnit high, rest)
      | _ => some (charOfUnit high, rest)
    else some (charOfUnit high, rest)

def simpleEscape? (c : Char) : Option Char :=
  if c == '"' || c == '\\' || c == '/' then some c
  else if c == 'b' then some (Char.ofNat 8)
  else if c == 'f' then some (Char.ofNat 12)
  else if c == 'n' then some '\n'
  else if c == 'r' then some '\r'
  else if c == 't' then some '\t'
  else none

/-- The characters up to the closing quote mark, the opening one having been read. -/
def readText? : Nat → List Char → Option (List Char × List Char)
  | 0, _ => none
  | _ + 1, [] => none
  | fuel + 1, c :: rest =>
    if c == '"' then some ([], rest)
    else if c == '\\' then
      match rest with
      | 'u' :: more =>
        match readEscapedUnit? more with
        | none => none
        | some (d, after) => (readText? fuel after).map fun (ds, left) => (d :: ds, left)
      | e :: more =>
        match simpleEscape? e with
        | none => none
        | some d => (readText? fuel more).map fun (ds, left) => (d :: ds, left)
      | [] => none
    else if c.toNat < 0x20 then none
    else (readText? fuel rest).map fun (ds, left) => (c :: ds, left)

/-- What stands before the fraction: zero alone, or digits that begin with another. -/
def wholePart? : List Char → Option (List Char × List Char)
  | '0' :: rest => some (['0'], rest)
  | cs =>
    let ds := cs.takeWhile isAsciiDigit
    if ds.isEmpty then none else some (ds, cs.dropWhile isAsciiDigit)

/-- A point and at least one digit, if they stand there. -/
def fractionPart : List Char → List Char × List Char
  | '.' :: rest =>
    let ds := rest.takeWhile isAsciiDigit
    if ds.isEmpty then ([], '.' :: rest) else (ds, rest.dropWhile isAsciiDigit)
  | cs => ([], cs)

/-- An exponent with at least one digit, if it stands there. -/
def scalePart (cs : List Char) : Option Int × List Char :=
  match cs with
  | e :: rest =>
    if e == 'e' || e == 'E' then
      let (negative, ds) := match rest with
        | '-' :: more => (true, more)
        | '+' :: more => (false, more)
        | more => (false, more)
      let digits := ds.takeWhile isAsciiDigit
      if digits.isEmpty then (none, cs)
      else
        let n : Int := numeralValue digits
        (some (if negative then -n else n), ds.dropWhile isAsciiDigit)
    else (none, cs)
  | [] => (none, cs)

def readNumber? (negative : Bool) (cs : List Char) : Option (Value × List Char) :=
  (wholePart? cs).bind fun (whole, rest) =>
    let (fraction, rest) := fractionPart rest
    let (scale, rest) := scalePart rest
    if fraction.isEmpty && scale.isNone then
      if numeralLimit < whole.length then none
      else
        let n : Int := numeralValue whole
        some (.int (if negative then -n else n), rest)
    else
      let e := scale.getD 0 - fraction.length
      some (.float (Binary64.ofScaled negative (numeralValue (whole ++ fraction)) e), rest)

def words : List (String × Value) :=
  [("null", .null), ("true", .bool true), ("false", .bool false), ("NaN", .float .nan),
   ("Infinity", .float (.infinity false)), ("-Infinity", .float (.infinity true))]

def readWord? (cs : List Char) : Option (Value × List Char) :=
  words.findSome? fun (w, v) =>
    if w.toList.isPrefixOf cs then some (v, cs.drop w.length) else none

mutual

/-- A value at the front of `cs`; each step down takes one unit of fuel. -/
def readValue? : Nat → List Char → Option (Value × List Char)
  | 0, _ => none
  | fuel + 1, cs =>
    match cs with
    | '"' :: rest =>
      (readText? (rest.length + 1) rest).map fun (ds, left) => (.str (String.ofList ds), left)
    | '[' :: rest =>
      match skipSpaces rest with
      | ']' :: left => some (.list [], left)
      | more => (readItems? fuel more).map fun (xs, left) => (.list xs, left)
    | '\x7b' :: rest =>
      match skipSpaces rest with
      | '\x7d' :: left => some (.obj [], left)
      | more => (readFields? fuel more).map fun (fs, left) => (.obj (Fields.ofEntries fs), left)
    | _ =>
      match readWord? cs with
      | some found => some found
      | none =>
        match cs with
        | '-' :: rest => readNumber? true rest
        | _ => readNumber? false cs

/-- The items of a list, up to its closing bracket. -/
def readItems? : Nat → List Char → Option (List Value × List Char)
  | 0, _ => none
  | fuel + 1, cs =>
    match readValue? fuel cs with
    | none => none
    | some (x, rest) =>
      match skipSpaces rest with
      | ']' :: left => some ([x], left)
      | ',' :: more => (readItems? fuel (skipSpaces more)).map fun (xs, left) => (x :: xs, left)
      | _ => none

/-- The entries of an object, up to its closing brace. -/
def readFields? : Nat → List Char → Option (List (String × Value) × List Char)
  | 0, _ => none
  | fuel + 1, cs =>
    match cs with
    | '"' :: rest =>
      match readText? (rest.length + 1) rest with
      | none => none
      | some (key, rest) =>
        match skipSpaces rest with
        | ':' :: more =>
          match readValue? fuel (skipSpaces more) with
          | none => none
          | some (v, rest) =>
            let entry := (String.ofList key, v)
            match skipSpaces rest with
            | '\x7d' :: left => some ([entry], left)
            | ',' :: more =>
              (readFields? fuel (skipSpaces more)).map fun (fs, left) => (entry :: fs, left)
            | _ => none
        | _ => none
    | _ => none

end

/-- Reads a text that holds one value and spaces around it. -/
def readChars? (cs : List Char) : Option Value :=
  match readValue? (cs.length + 1) (skipSpaces cs) with
  | some (v, rest) => if (skipSpaces rest).isEmpty then some v else none
  | none => none

def read? (s : String) : Option Value := readChars? s.toList

/-! ### Writing -/

/-- A character by its code units, four hexadecimal digits each. -/
def escapedUnits (c : Char) : List Char :=
  let n := c.toNat
  if n < 0x10000 then '\\' :: 'u' :: Text.hexPadded 4 n
  else
    '\\' :: 'u' :: Text.hexPadded 4 (0xD800 + (n - 0x10000) / 0x400)
      ++ '\\' :: 'u' :: Text.hexPadded 4 (0xDC00 + (n - 0x10000) % 0x400)

def escapedChar (c : Char) : List Char :=
  if c == '"' || c == '\\' then ['\\', c]
  else if c == '\n' then ['\\', 'n']
  else if c == '\r' then ['\\', 'r']
  else if c == '\t' then ['\\', 't']
  else if c.toNat == 8 then ['\\', 'b']
  else if c.toNat == 12 then ['\\', 'f']
  else if 0x20 ≤ c.toNat && c.toNat ≤ 0x7E then [c]
  else escapedUnits c

def quotedText (s : String) : String :=
  String.ofList ('"' :: s.toList.flatMap escapedChar ++ ['"'])

/-- A floating point number, the words of the reader standing for the values that are no numbers. -/
def floatText (x : Binary64) : String :=
  if x.isNan then "NaN"
  else if !x.isFinite then (if x.negative then "-Infinity" else "Infinity")
  else String.ofList x.text

/-- The text that stands for a key; days and moments have none. -/
def keyText : Key → Outcome String
  | .text s => .ok s
  | .null => .ok "null"
  | .bool b => .ok (if b then "true" else "false")
  | .int i => Value.intText i
  | .float x => .ok (floatText x)
  | .date d => .error (.notStorable (Value.date d).shortKindName)
  | .moment m => .error (.notStorable (Value.moment m).shortKindName)

end Json

namespace Value

mutual

def toJson : Value → Outcome String
  | null => .ok "null"
  | bool b => .ok (if b then "true" else "false")
  | int i => intText i
  | float x => .ok (Json.floatText x)
  | str s => .ok (Json.quotedText s)
  | list xs => do return "[" ++ joinedBy ", " (← itemsToJson xs) ++ "]"
  | tuple xs => do return "[" ++ joinedBy ", " (← itemsToJson xs) ++ "]"
  | obj fs => do return "\x7b" ++ joinedBy ", " (← fieldsToJson fs) ++ "\x7d"
  | keyed es => do return "\x7b" ++ joinedBy ", " (← entriesToJson es) ++ "\x7d"
  | decimal d => .error (.notStorable (decimal d).shortKindName)
  | date d => .error (.notStorable (date d).shortKindName)
  | moment m => .error (.notStorable (moment m).shortKindName)
  | bytes bs => .error (.notStorable (bytes bs).shortKindName)
  | keySet ks => .error (.notStorable (keySet ks).shortKindName)

def itemsToJson : List Value → Outcome (List String)
  | [] => .ok []
  | x :: rest => do return (← toJson x) :: (← itemsToJson rest)

def fieldsToJson : List (String × Value) → Outcome (List String)
  | [] => .ok []
  | (key, v) :: rest => do
    return (Json.quotedText key ++ ": " ++ (← toJson v)) :: (← fieldsToJson rest)

def entriesToJson : List (Key × Value) → Outcome (List String)
  | [] => .ok []
  | (key, v) :: rest => do
    let name ← Json.keyText key
    return (Json.quotedText name ++ ": " ++ (← toJson v)) :: (← entriesToJson rest)

end

end Value

end QuotationPress
