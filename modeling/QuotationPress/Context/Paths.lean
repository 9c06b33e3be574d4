import QuotationPress.Failure
import QuotationPress.Text.Digit
import QuotationPress.Text.Split
import QuotationPress.Value.Basic

/-!
# Dotted paths into data

`Value.leaves` lists the path and the value of every leaf in document order, `flatten` the same with
one entry for each path, and `Value.walk` follows one path.
-/

namespace QuotationPress

/-- `a.b` for a step `b` below the path `a`, and `b` below no path. -/
def pathBelow (path step : String) : String := if path.isEmpty then step else path ++ "." ++ step

def stepOfIndex (i : Nat) : String := String.ofList (numeral i)

namespace Value

mutual

/-- The leaves below `path`. The value itself is no leaf when it stands at no path. -/
def leavesBelow (path : String) : Value → List (String × Value)
  | list xs => itemLeaves path 0 xs
  | tuple xs => itemLeaves path 0 xs
  | obj fs => fieldLeaves path fs
  | keyed es => entryLeaves path es
  | v => [(path, v)]

def itemLeaves (path : String) : Nat → List Value → List (String × Value)
  | _, [] => []
  | i, v :: rest => leavesBelow (pathBelow path (stepOfIndex i)) v ++ itemLeaves path (i + 1) rest

def fieldLeaves (path : String) : List (String × Value) → List (String × Value)
  | [] => []
  | (key, v) :: rest => leavesBelow (pathBelow path key) v ++ fieldLeaves path rest

def entryLeaves (path : String) : List (Key × Value) → List (String × Value)
  | [] => []
  | (key, v) :: rest => leavesBelow (pathBelow path key.label) v ++ entryLeaves path rest

end

def isContainer : Value → Bool
  | list _ => true
  | tuple _ => true
  | obj _ => true
  | keyed _ => true
  | _ => false

/-- A value that is no container has no path of its own. -/
def leaves (v : Value) : List (String × Value) := if v.isContainer then leavesBelow "" v else []

end Value

/-- The leaves, each path once: of two leaves with one path the later counts, at the earlier
place. -/
def flatten (v : Value) : Fields := Fields.ofEntries v.leaves

/-- The position that a step names, if it is written in digits. -/
def indexOfStep? (step : String) : Outcome (Option Nat) :=
  let cs := step.toList
  if cs.isEmpty || !cs.all Text.isDigitLike then .ok none
  else if !cs.all Text.isDecimal then .error (.unreadableWhole 10 step)
  else if numeralLimit < cs.length then .error (.numeralTooLongToRead cs.length)
  else .ok (some (numeralValue (cs.map Text.asciiDigit)))

namespace Value

/-- One step into a value; null when it leads nowhere. -/
def step (v : Value) (name : String) : Outcome Value :=
  match v.fields? with
  | some fs => .ok (Fields.get fs name)
  | none =>
    match v.items? with
    | none => .ok null
    | some xs => do
      match ← indexOfStep? name with
      | some i => return xs.getD i null
      | none => return null

/-- Follows the steps; it stops at null, which no step leads out of. -/
def walkSteps : Value → List String → Outcome Value
  | v, [] => .ok v
  | v, name :: rest => do walkSteps (← v.step name) rest

/-- Follows a dotted path; null when it leads nowhere. -/
def walk (v : Value) (path : String) : Outcome Value := v.walkSteps (Text.splitAt '.' path)

end Value

end QuotationPress
