import QuotationPress.Calendar.Moment
import QuotationPress.Number.FloatText

/-!
# Keys of objects

Nearly all keys are texts; data files may also use null, flags, numbers, days and moments.
`Key.same` says which keys count as one, `Key.label` is the text that stands for a key in a path.
-/

namespace QuotationPress

inductive Key where
  | text (s : String)
  | null
  | bool (b : Bool)
  | int (i : Int)
  | float (x : Binary64)
  | date (d : Date)
  | moment (m : Moment)
  deriving DecidableEq, Inhabited

namespace Key

def text? : Key → Option String
  | text s => some s
  | _ => none

/-- The finite number that a key is, as a ratio; flags count as zero and one. -/
def number? : Key → Option (Int × Nat)
  | bool b => some (if b then 1 else 0, 1)
  | int i => some (i, 1)
  | float x => if x.isFinite then some x.signedRatio else none
  | _ => none

/-- Numbers are compared by value, moments with an offset by the instant, and a value that is no
number equals itself. -/
def same (a b : Key) : Bool :=
  match a.number?, b.number? with
  | some x, some y => x.1 * y.2 == y.1 * x.2
  | none, none =>
    match a, b with
    | moment m, moment n =>
      (match m.instant?, n.instant? with
      | some s, some t => s == t
      | none, none => decide (m = n)
      | _, _ => false)
    | a, b => decide (a = b)
  | _, _ => false

def label : Key → String
  | text s => s
  | null => "None"
  | bool b => if b then "True" else "False"
  | int i => String.ofList (intNumeral i)
  | float x => String.ofList x.text
  | date d => d.isoForm
  | moment m => m.isoWith ' '

end Key

end QuotationPress
