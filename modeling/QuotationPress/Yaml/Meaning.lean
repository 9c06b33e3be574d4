import QuotationPress.Yaml.Node
import QuotationPress.Yaml.Scalar

/-!
# What the tree of a data file means

`Node.value` gives its value. Where several parts have none, the one that is nested least deep tells
why, and among these the first.
-/

namespace QuotationPress.Yaml

/-! ### Results by depth -/

/-- A result, or a failure and how deep it lies. -/
abbrev Graded (α : Type) := Except (Nat × Failure) α

namespace Graded

def fail {α : Type} (level : Nat) (f : Failure) : Graded α := .error (level, f)

def flaw {α : Type} (level : Nat) (f : TextFlaw) : Graded α := fail level (.unreadableFile f)

def atLevel {α : Type} (level : Nat) : Outcome α → Graded α
  | .ok a => .ok a
  | .error f => fail level f

/-- Of two failures the one that is less deep counts, and the first of two that are equally deep. -/
def both {α β : Type} : Graded α → Graded β → Graded (α × β)
  | .ok a, .ok b => .ok (a, b)
  | .error e, .ok _ => .error e
  | .ok _, .error e => .error e
  | .error e, .error f => .error (if f.1 < e.1 then f else e)

def all {α β : Type} (f : α → Graded β) : List α → Graded (List β)
  | [] => .ok []
  | a :: rest => (both (f a) (all f rest)).map fun (b, bs) => b :: bs

end Graded

namespace Node

/-! ### Texts -/

def isStandIn (n : Node) : Bool := n.tag == .standIn

/-- The text of a node; an object may have an entry that stands in for it. -/
def textOf : Nat → Node → Outcome String
  | 0, _ => .error (.unreadableFile .unfitTag)
  | fuel + 1, n =>
    match n with
    | text _ s => .ok s
    | object _ es =>
      match es.find? fun e => e.1.isStandIn with
      | some (_, v) => textOf fuel v
      | none => .error (.unreadableFile .unfitTag)
    | _ => .error (.unreadableFile .unfitTag)

/-! ### Merging -/

/-- The key of a stand-in is a text where all keys are looked at. -/
def plainKey : Node → Node
  | text .standIn s => text .text s
  | n => n

mutual

/-- The entries of an object: first those that are merged into it, then its own. -/
def mergedEntries : Nat → List (Node × Node) → Outcome (List (Node × Node))
  | 0, _ => .error (.unreadableFile .unusableMerge)
  | fuel + 1, es => do
    let sources ← (es.filter fun e => e.1.tag == .merge).mapM fun e => mergeSource fuel e.2
    let own := (es.filter fun e => e.1.tag != .merge).map fun e => (e.1.plainKey, e.2)
    return sources.flatten ++ own

/-- The entries of an object that is merged, or of the objects of a list, the last one first. -/
def mergeSource : Nat → Node → Outcome (List (Node × Node))
  | 0, _ => .error (.unreadableFile .unusableMerge)
  | fuel + 1, n =>
    match n with
    | object _ es => mergedEntries fuel es
    | list _ xs => do
      let sources ← xs.mapM fun x =>
        match x with
        | object _ es => mergedEntries fuel es
        | _ => .error (.unreadableFile .unusableMerge)
      return sources.reverse.flatten
    | _ => .error (.unreadableFile .unusableMerge)

end

/-! ### Values -/

/-- The key that a value makes; lists and objects make none. -/
def keyOf? : Value → Option Key
  | .null => some .null
  | .bool b => some (.bool b)
  | .int i => some (.int i)
  | .float x => some (.float x)
  | .date d => some (.date d)
  | .moment m => some (.moment m)
  | .str s => some (.text s)
  | _ => none

/-- A key lies as deep as its entry; nothing inside of it does. -/
def gradedKey (level : Nat) : Graded Value → Graded Key
  | .ok v =>
    match keyOf? v with
    | some k => .ok k
    | none => .flaw level .unusableKey
  | .error (deep, f) => if level < deep then .flaw level .unusableKey else .fail deep f

/-- The two nodes of an object with one entry. -/
def pairOf (level : Nat) : Node → Graded (Node × Node)
  | object _ [e] => .ok e
  | _ => .flaw level .unfitTag

/-- The value of a node at depth `level`; its parts are one level deeper. -/
def gradedValue : Nat → Nat → Node → Graded Value
  | 0, level, _ => .fail level .endlessValue
  | fuel + 1, level, n =>
    let deeper := level + 1
    let entriesOf : Graded (List (Key × Value)) :=
      match n with
      | object _ es =>
        (Graded.atLevel deeper (mergedEntries fuel es)).bind (Graded.all fun e =>
          Graded.both (gradedKey deeper (gradedValue fuel deeper e.1))
            (gradedValue fuel deeper e.2))
      | _ => .flaw deeper .unfitTag
    match n with
    | loop => .fail level .endlessValue
    | _ =>
      match n.tag with
      | .merge | .standIn | .unknown => .flaw level .unknownTag
      | .list =>
        match n with
        | list _ xs => (Graded.all (gradedValue fuel deeper) xs).map Value.list
        | _ => .flaw deeper .unfitTag
      | .pairs =>
        match n with
        | list _ xs =>
          (Graded.all (fun x => do
            let (k, v) ← pairOf deeper x
            Graded.both (gradedValue fuel deeper k) (gradedValue fuel deeper v)) xs).map
              fun pairs =>
              Value.list (pairs.map fun (k, v) => Value.tuple [k, v])
        | _ => .flaw deeper .unfitTag
      | .object => entriesOf.map Value.ofEntries
      | .members => entriesOf.map fun es => Value.keySet ((Value.distinct es).map Prod.fst)
      | t => Graded.atLevel level (do scalarValue t (← textOf fuel n))

def value (fuel : Nat) (n : Node) : Outcome Value :=
  match gradedValue fuel 0 n with
  | .ok v => .ok v
  | .error (_, f) => .error f

end Node

end QuotationPress.Yaml
