import QuotationPress.Failure
import QuotationPress.Text.Split
import QuotationPress.Value.Basic

/-!
# Checking loosely typed data against a model

A `Checked` result is a value, or every issue that was found; `<*>` looks at both sides and joins
their issues. `Checked.field` reads one entry of a record under its accepted spellings,
`Checked.each` the members of a list.
-/

namespace QuotationPress

inductive Checked (α : Type) where
  | good (a : α)
  | bad (issues : List Issue)

namespace Checked

variable {α β : Type}

def map (f : α → β) : Checked α → Checked β
  | good a => good (f a)
  | bad is => bad is

def ap : Checked (α → β) → Checked α → Checked β
  | good f, good a => good (f a)
  | good _, bad is => bad is
  | bad is, good _ => bad is
  | bad is, bad js => bad (is ++ js)

instance : Functor Checked := ⟨map, fun a x => map (fun _ => a) x⟩

instance : Applicative Checked where
  pure := good
  seq f x := ap f (x ())

def fault (f : Fault) : Checked α := bad [Issue.here f]

def value? : Checked α → Option α
  | good a => some a
  | bad _ => none

def andThen (x : Checked α) (f : α → Checked β) : Checked β :=
  match x with
  | good a => f a
  | bad is => bad is

/-- Puts a name in front of the path of every issue. -/
def under (name : String) : Checked α → Checked α
  | good a => good a
  | bad is => bad (is.map (Issue.under name))

/-- The value, or the failure of fitting `model`. -/
def outcome (model : String) : Checked α → Outcome α
  | good a => .ok a
  | bad is => .error (.invalid model is)

theorem outcome_eq_ok_iff {model : String} {x : Checked α} {a : α} :
    x.outcome model = .ok a ↔ x = good a := by
  cases x <;> simp [outcome]

/-! ### Lists -/

def numbered (i : Nat) (x : Checked α) : Checked α := x.under (String.ofList (numeral i))

/-- The members of a list, each under its position, counted from `i`; the position is known to the
reader. -/
def eachFrom (read : Nat → Value → Checked α) : Nat → List Value → Checked (List α)
  | _, [] => good []
  | i, v :: rest => ap (map List.cons (numbered i (read i v))) (eachFrom read (i + 1) rest)

def each (read : Value → Checked α) (vs : List Value) : Checked (List α) :=
  eachFrom (fun _ => read) 0 vs

/-- The entries of an object, each under its key. -/
def eachField (read : Value → Checked α) : Fields → Checked (List (String × α))
  | [] => good []
  | (key, v) :: rest =>
    ap (map (fun a es => (key, a) :: es) ((read v).under key)) (eachField read rest)

end Checked

/-! ### Records -/

/-- How the entries of a record may be spelled: as named, or in camel case first. -/
inductive Spelling where
  | plain
  | camel
  deriving DecidableEq

def capitalized : List Char → List Char
  | [] => []
  | c :: rest => c.toUpper :: rest

/-- `showHeader` for `show_header`. -/
def camelCase (name : String) : String :=
  match Text.splitAt '_' name with
  | [] => name
  | first :: rest =>
    String.join (first :: rest.map fun part => String.ofList (capitalized part.toList))

namespace Spelling

/-- The name that issues show. -/
def shown : Spelling → String → String
  | plain, name => name
  | camel, name => camelCase name

/-- The entry of a field. Where both spellings are given, camel case counts. -/
def find? (sp : Spelling) (fs : Fields) (name : String) : Option Value :=
  match sp with
  | plain => fs.get? name
  | camel => (fs.get? (camelCase name)).or (fs.get? name)

end Spelling

namespace Checked

variable {α : Type}

/-- Reads the entry of a field, `absent` standing in when there is none. -/
def field (sp : Spelling) (fs : Fields) (name : String) (absent : Checked α)
    (read : Value → Checked α) : Checked α :=
  match sp.find? fs name with
  | some v => (read v).under (sp.shown name)
  | none => absent

/-- A field that may be left out. -/
def optional (sp : Spelling) (fs : Fields) (name : String) (fallback : α)
    (read : Value → Checked α) : Checked α := field sp fs name (good fallback) read

/-- A field that has to be there. -/
def required (sp : Spelling) (fs : Fields) (name : String) (read : Value → Checked α) : Checked α :=
  field sp fs name ((fault .missing).under (sp.shown name)) read

end Checked

end QuotationPress
