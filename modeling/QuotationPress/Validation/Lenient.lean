import QuotationPress.Number.RealNumeral
import QuotationPress.Text.Utf8
import QuotationPress.Validation.Checked
import QuotationPress.Value.Text

/-!
# Lenient reading of single values

Texts have to be texts; numbers and flags may also be written as texts or as numbers of another
kind, as long as nothing is lost. `Lenient.text`, `Lenient.flag`, `Lenient.whole`, `Lenient.real`,
`Lenient.listOf` and `Lenient.object` read one value each.
-/

namespace QuotationPress.Lenient

open Text (isAsciiDigit)

/-- A text, or the bytes of one. -/
def textIn? : Value → Option String
  | .str s => some s
  | .bytes bs => (Text.utf8Chars? bs).map String.ofList
  | _ => none

def text (v : Value) : Checked String :=
  match textIn? v with
  | some s => .good s
  | none => .fault .notString

def optional {α : Type} (read : Value → Checked α) : Value → Checked (Option α)
  | .null => .good none
  | v => (read v).map some

def list : Value → Checked (List Value)
  | .list xs => .good xs
  | .tuple xs => .good xs
  | .keySet ks => .good (ks.map Value.ofKey)
  | _ => .fault .notList

def listOf {α : Type} (read : Value → Checked α) (v : Value) : Checked (List α) :=
  (list v).andThen (Checked.each read)

/-- How a key is shown in the path of an issue. -/
def keyPlace : Key → String
  | .bool b => if b then "1" else "0"
  | k => k.listing

/-- One issue for each key that is no text. -/
def strayIssues (v : Value) : List Issue :=
  v.strayKeys.map fun k => ⟨[keyPlace k, "[key]"], .notString⟩

def object (v : Value) : Checked Fields :=
  match v.fields?, strayIssues v with
  | some fs, [] => .good fs
  | some _, issues => .bad issues
  | none, _ => .fault .notObject

/-- The entries of a record that is given as an object; entries under other keys than texts do not
matter. -/
def record (model : String) (v : Value) : Checked Fields :=
  match v.fields? with
  | some fs => .good fs
  | none => .fault (.notRecord model)

/-- One of some texts. -/
def choice (choices : List String) : Value → Checked String
  | .str s => if choices.contains s then .good s else .fault (.notChoice choices)
  | _ => .fault (.notChoice choices)

/-! ### Numbers in texts -/

/-- The white space that may surround a number. -/
def isSpace (c : Char) : Bool := Text.isBlank c && !(0x1C ≤ c.toNat && c.toNat ≤ 0x1F)

def trimSpace (cs : List Char) : List Char :=
  ((cs.dropWhile isSpace).reverse.dropWhile isSpace).reverse

/-- Whether a low line stands at an end or next to another. -/
def hasLooseLine (cs : List Char) : Bool :=
  cs.head? == some '_' || cs.getLast? == some '_' || (cs.zip (cs.drop 1)).contains ('_', '_')

/-- The text without its low lines, each of which has to stand alone between other characters. -/
def withoutLines? (cs : List Char) : Option (List Char) :=
  if hasLooseLine cs then none else some (cs.filter (· ≠ '_'))

/-- A point that nothing but zeros follow, one at least, is dropped with them. -/
def withoutZeroTail (cs : List Char) : List Char :=
  match cs.dropWhile (· ≠ '.') with
  | _ :: zeros => if !zeros.isEmpty && zeros.all (· == '0') then cs.takeWhile (· ≠ '.') else cs
  | [] => cs

/-- The text of a number from its first significant character on. Zeros in front are dropped, and
the low lines and zeros behind them, as long as the number goes on. -/
def significant? : List Char → Option (List Char)
  | [] => none
  | '0' :: rest =>
    match rest.dropWhile (fun c => c == '0' || c == '_') with
    | [] => some [rest.getLast?.getD '0']
    | c :: more => if isAsciiDigit c || c == '-' then some (c :: more) else none
  | c :: rest => if isAsciiDigit c || c == '-' then some (c :: rest) else none

/-- A plain whole number: a minus perhaps, and digits that begin with a zero only if it is alone. -/
def plainWhole (cs : List Char) : Checked Int :=
  let (negative, body) := Binary64.signed cs
  let ds := body.takeWhile isAsciiDigit
  let size := if negative then ds.length + 1 else ds.length
  if ds.isEmpty || (ds.head? == some '0' && ds.length ≠ 1) then .fault .unreadableInt
  else if numeralLimit < size then .fault .intTooLong
  else if body.length ≠ ds.length then .fault .unreadableInt
  else
    let n : Int := numeralValue ds
    .good (if negative then -n else n)

/-- A whole number in a text: blanks around it, one sign, zeros in front, low lines between its
digits and a point that zeros follow do no harm. -/
def readWhole (cs : List Char) : Checked Int :=
  let body := match trimSpace cs with | '+' :: rest => rest | rest => rest
  let signs := (trimSpace cs).take 2
  match if signs == ['+', '-'] then none
    else (significant? (withoutZeroTail body)).bind withoutLines? with
  | some cs => plainWhole cs
  | none => .fault .unreadableInt

/-- A number may stand between blanks, or have low lines in it, but not both. -/
def readReal? (cs : List Char) : Option Binary64 :=
  (Binary64.read? (trimSpace cs)).or ((withoutLines? cs).bind Binary64.read?)

/-! ### Flags and numbers -/

/-- Whole numbers of 64 bits with a sign; the least one is left out where a floating point number
stands for it. -/
def isWord (i : Int) : Bool := -wordLimit ≤ i && i < wordLimit

def isInnerWord (i : Int) : Bool := -wordLimit < i && i < wordLimit

def wholeOfFloat (x : Binary64) : Checked Int :=
  if !x.isFinite then .fault .notFinite
  else match x.whole? with
    | none => .fault .fractionalInt
    | some i => if isInnerWord i then .good i else .fault .intTooLong

/-- The whole number that a finite decimal stands for, if it stands for one. -/
def wholeOfDecimal : Decimal → Checked Int
  | .finite negative c e =>
    if !Decimal.isWhole c e then .fault .fractionalInt
    else
      let n := if 0 ≤ e then c * Nat.pow 10 e.toNat else c / Nat.pow 10 e.natAbs
      .good (if negative then -(n : Int) else n)
  | _ => .fault .notFinite

def flagOfInt (i : Int) : Checked Bool :=
  if i = 0 then .good false else if i = 1 then .good true else .fault .unreadableBool

def flagOfFloat (x : Binary64) : Checked Bool :=
  match wholeOfFloat x with
  | .good i => flagOfInt i
  | .bad _ => .fault .notBool

def trueWords : List String := ["1", "true", "t", "yes", "y", "on"]

def falseWords : List String := ["0", "false", "f", "no", "n", "off"]

def flagOfText (s : String) : Checked Bool :=
  let word := Text.asciiLower s
  if trueWords.contains word then .good true
  else if falseWords.contains word then .good false
  else .fault .unreadableBool

def flag : Value → Checked Bool
  | .bool b => .good b
  | .int i => if isWord i then flagOfInt i else .fault .notBool
  | .float x => flagOfFloat x
  | .decimal d => if d.isNan then .fault .notBool else flagOfFloat (Binary64.ofDecimal d)
  | v =>
    match textIn? v with
    | some s => flagOfText s
    | none => .fault .notBool

def whole : Value → Checked Int
  | .int i => .good i
  | .bool b => .good (if b then 1 else 0)
  | .str s => readWhole s.toList
  | .float x => wholeOfFloat x
  | .decimal d => wholeOfDecimal d
  | _ => .fault .notInt

/-- A finite value, or the overflow of a whole number. -/
def floatOfInt? (i : Int) : Option Binary64 :=
  let x := Binary64.ofInt i
  if x.isFinite then some x else none

def real : Value → Checked Binary64
  | .float x => .good x
  | .bool b => .good (Binary64.ofInt (if b then 1 else 0))
  | .int i => match floatOfInt? i with
    | some x => .good x
    | none => .fault .notFloat
  | .decimal (.nan _ true _) => .fault .notFloat
  | .decimal d => .good (Binary64.ofDecimal d)
  | .str s => match readReal? s.toList with
    | some x => .good x
    | none => .fault .unreadableFloat
  | _ => .fault .notFloat

end QuotationPress.Lenient
