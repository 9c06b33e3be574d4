import QuotationPress.Value.Basic

/-!
# Data in the form in which it leaves the library

`Value.jsonForm` keeps what JSON has a form for, writes decimals, dates and moments as texts, and
leaves out floating point values that are no numbers.
-/

namespace QuotationPress.Value

/-- The nearest number of seconds, a half away from zero. -/
def secondsOf (micros : Int) : Int :=
  let n : Int := (micros.natAbs + 500000) / 1000000
  if micros < 0 then -n else n

/-- An offset in hours and minutes, what is below a minute dropped; the letter Z for universal
time. -/
def zuluOffset (micros : Int) : List Char :=
  let seconds := secondsOf micros
  if seconds = 0 then ['Z']
  else
    let n := seconds.natAbs / 60
    (if seconds < 0 then '-' else '+') :: padded 2 (n / 60) ++ ':' :: padded 2 (n % 60)

def zuluText (m : Moment) : String :=
  { m with offset := none }.isoWith 'T'
    ++ String.ofList (match m.offset with | none => [] | some o => zuluOffset o)

mutual

def jsonForm : Value → Value
  | decimal d => str (String.ofList d.text)
  | date d => str d.isoForm
  | moment m => str (zuluText m)
  | list xs => list (jsonForms xs)
  | tuple xs => list (jsonForms xs)
  | obj fs => obj (jsonFormFields fs)
  | keyed es => obj (Fields.ofEntries (jsonFormEntries es))
  | float x => if x.isFinite then float x else null
  | v => v

def jsonForms : List Value → List Value
  | [] => []
  | x :: rest => jsonForm x :: jsonForms rest

def jsonFormFields : List (String × Value) → List (String × Value)
  | [] => []
  | (key, v) :: rest => (key, jsonForm v) :: jsonFormFields rest

def jsonFormEntries : List (Key × Value) → List (String × Value)
  | [] => []
  | (key, v) :: rest => (key.label, jsonForm v) :: jsonFormEntries rest

end

end QuotationPress.Value
