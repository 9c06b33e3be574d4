import QuotationPress.Value.Key

/-!
# Loosely typed data

Templates, contexts and records are made of such data before they are checked. A `Value` keeps whole
numbers, binary floating point numbers and decimals apart, and the entries of an object in the order
in which they came. `Fields` are such entries: `Fields.get?`, `Fields.put` and `Fields.overlay`
read, set and merge them. An object with keys that are no texts is kept apart, as `Value.keyed`;
`Value.ofEntries` makes an object of either sort. Bytes and sets only come from data files.
-/

namespace QuotationPress

inductive Value where
  | null
  | bool (b : Bool)
  | int (i : Int)
  | float (x : Binary64)
  | decimal (d : Decimal)
  | date (d : Date)
  | moment (m : Moment)
  | str (s : String)
  | list (items : List Value)
  /-- A sequence that is written with round brackets; in all else like a list. -/
  | tuple (items : List Value)
  | obj (fields : List (String × Value))
  /-- An object some of whose keys are no texts. -/
  | keyed (entries : List (Key × Value))
  | bytes (bs : List UInt8)
  /-- Keys without values, each once. -/
  | keySet (keys : List Key)
  deriving Inhabited

/-- The entries of an object, in order. -/
abbrev Fields := List (String × Value)

namespace Fields

def get? (fs : Fields) (key : String) : Option Value := fs.lookup key

/-- The value under a key, `null` when there is none. -/
def get (fs : Fields) (key : String) : Value := (fs.get? key).getD .null

def has (fs : Fields) (key : String) : Bool := (fs.get? key).isSome

def keys (fs : Fields) : List String := fs.map Prod.fst

/-- Sets the value under a key: in its place, or at the end when the key is new. -/
def put : Fields → String → Value → Fields
  | [], key, v => [(key, v)]
  | (k, w) :: rest, key, v => if k = key then (k, v) :: rest else (k, w) :: put rest key v

/-- The entries of `upper` laid over those of `lower`. -/
def overlay (lower upper : Fields) : Fields := upper.foldl (fun fs e => fs.put e.1 e.2) lower

/-- Sets the value under a key unless there is one. -/
def putNew (fs : Fields) (key : String) (v : Value) : Fields :=
  if fs.has key then fs else fs.put key v

def erase (fs : Fields) (key : String) : Fields := fs.filter (·.1 ≠ key)

/-- Entries under distinct keys: of two under one key the later value counts, at the earlier
place. -/
def ofEntries (entries : List (String × Value)) : Fields := overlay [] entries

@[simp] theorem get?_nil (key : String) : get? [] key = none := rfl

theorem get?_cons (k : String) (w : Value) (fs : Fields) (key : String) :
    get? ((k, w) :: fs) key = if key = k then some w else get? fs key := by
  unfold get?
  rw [List.lookup_cons]
  by_cases h : key = k
  · simp [h]
  · simp [beq_false_of_ne h, h]

theorem get?_put_self (fs : Fields) (key : String) (v : Value) :
    (fs.put key v).get? key = some v := by
  induction fs with
  | nil => simp [put, get?_cons]
  | cons e rest ih =>
    obtain ⟨k, w⟩ := e
    rw [put]
    split
    · next h => simp [get?_cons, h]
    · next h => rw [get?_cons, if_neg (Ne.symm h), ih]

theorem get?_put_of_ne {fs : Fields} {key other : String} (h : other ≠ key) (v : Value) :
    (fs.put key v).get? other = fs.get? other := by
  induction fs with
  | nil => simp [put, get?_cons, h]
  | cons e rest ih =>
    obtain ⟨k, w⟩ := e
    rw [put]
    split
    · next hk =>
      subst hk
      simp [get?_cons, h]
    · simp only [get?_cons, ih]

end Fields

namespace Value

/-- The entries of an object under texts; no other value has any. -/
def fields? : Value → Option Fields
  | obj fs => some fs
  | keyed es => some (es.filterMap fun e => e.1.text?.map fun key => (key, e.2))
  | _ => none

/-- The keys of an object that are no texts. -/
def strayKeys : Value → List Key
  | keyed es => (es.map Prod.fst).filter fun k => k.text?.isNone
  | _ => []

/-- Sets the value under a key: in the place of the same key, which stays, or at the end. -/
def putEntry : List (Key × Value) → Key → Value → List (Key × Value)
  | [], key, v => [(key, v)]
  | (k, w) :: rest, key, v => if k.same key then (k, v) :: rest else (k, w) :: putEntry rest key v

/-- Each key once; of two values under one key the later counts, under the earlier key and at its
place. -/
def distinct (entries : List (Key × Value)) : List (Key × Value) :=
  entries.foldl (fun es e => putEntry es e.1 e.2) []

/-- The object with some entries. -/
def ofEntries (entries : List (Key × Value)) : Value :=
  let es := distinct entries
  if es.all fun e => e.1.text?.isSome then obj (es.map fun e => (e.1.label, e.2)) else keyed es

/-- An object with an entry under a text, unless it has one. -/
def putNew (object : Value) (key : String) (v : Value) : Value :=
  match object with
  | obj fs => obj (Fields.putNew fs key v)
  | keyed es =>
    if es.any fun e => e.1.text? == some key then keyed es else keyed (es ++ [(.text key, v)])
  | other => other

def isObject (v : Value) : Bool := v.fields?.isSome

/-- The members of a list or a tuple. -/
def items? : Value → Option (List Value)
  | list xs => some xs
  | tuple xs => some xs
  | _ => none

def text? : Value → Option String
  | str s => some s
  | _ => none

def isNull : Value → Bool
  | null => true
  | _ => false

def isText (v : Value) : Bool := v.text?.isSome

/-- Null or the empty text: what a form leaves in a field that is not filled in. -/
def isBlankField : Value → Bool
  | null => true
  | str s => s.isEmpty
  | _ => false

/-- A value counts as given unless it is null, false, zero, or empty. -/
def isTruthy : Value → Bool
  | null => false
  | bool b => b
  | int i => i != 0
  | float x => !x.isZero
  | decimal d => !d.isZero
  | date _ => true
  | moment _ => true
  | str s => !s.isEmpty
  | list xs => !xs.isEmpty
  | tuple xs => !xs.isEmpty
  | obj fs => !fs.isEmpty
  | keyed es => !es.isEmpty
  | bytes bs => !bs.isEmpty
  | keySet ks => !ks.isEmpty

/-- `a` if it counts as given, else `b`. -/
def orElse (a b : Value) : Value := if a.isTruthy then a else b

def ofText? : Option String → Value
  | some s => str s
  | none => null

def ofKey : Key → Value
  | .text s => str s
  | .null => null
  | .bool b => bool b
  | .int i => int i
  | .float x => float x
  | .date d => date d
  | .moment m => moment m

/-- The word for the kind of a value in messages. -/
def kindName : Value → String
  | null => "NoneType"
  | bool _ => "bool"
  | int _ => "int"
  | float _ => "float"
  | decimal _ => "decimal.Decimal"
  | date _ => "datetime.date"
  | moment _ => "datetime.datetime"
  | str _ => "str"
  | list _ => "list"
  | tuple _ => "tuple"
  | obj _ => "dict"
  | keyed _ => "dict"
  | bytes _ => "bytes"
  | keySet _ => "set"

/-- The word without the family that the kind belongs to. -/
def shortKindName : Value → String
  | decimal _ => "Decimal"
  | date _ => "date"
  | moment _ => "datetime"
  | v => v.kindName

end Value

end QuotationPress
