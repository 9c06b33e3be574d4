import QuotationPress.Failure
import QuotationPress.Number.FloatText
import QuotationPress.Value.Basic

/-!
# The text of any value

`Value.text` gives a text as it is and every other value in the notation of data listings; inside
lists and objects texts are quoted. A whole number beyond the numeral limit has no text.
-/

namespace QuotationPress.Value

def joinedBy (mark : String) : List String → String
  | [] => ""
  | [s] => s
  | s :: rest => s ++ mark ++ joinedBy mark rest

/-- The numeral of a whole number. -/
def intText (i : Int) : Outcome String :=
  if numeralLimit < digitCount i.natAbs then .error .numeralTooLong
  else .ok (String.ofList (intNumeral i))

/-- A time difference: days, and the seconds and microseconds that are left. -/
def differenceText (micros : Int) : String :=
  let seconds := Int.fdiv micros 1000000
  let part (name : String) (n : Int) : List String :=
    if n = 0 then [] else [name ++ "=" ++ String.ofList (intNumeral n)]
  let parts := part "days" (Int.fdiv seconds 86400) ++ part "seconds" (Int.fmod seconds 86400)
    ++ part "microseconds" (Int.fmod micros 1000000)
  "datetime.timedelta(" ++ joinedBy ", " parts ++ ")"

def offsetListing : Option Int → List String
  | none => []
  | some 0 => ["tzinfo=datetime.timezone.utc"]
  | some s => ["tzinfo=datetime.timezone(" ++ differenceText s ++ ")"]

def numeralText (n : Nat) : String := String.ofList (numeral n)

def dateListing (d : Date) : String :=
  "datetime.date(" ++ joinedBy ", " [numeralText d.year, numeralText d.month,
    numeralText d.day] ++ ")"

/-- Seconds are left out when they are zero and no smaller part follows. -/
def momentListing (m : Moment) : String :=
  let head := [numeralText m.date.year, numeralText m.date.month, numeralText m.date.day,
    numeralText m.hour, numeralText m.minute]
  let tail := if m.micro ≠ 0 then [numeralText m.second, numeralText m.micro]
    else if m.second ≠ 0 then [numeralText m.second] else []
  "datetime.datetime(" ++ joinedBy ", " (head ++ tail ++ offsetListing m.offset) ++ ")"

end QuotationPress.Value

namespace QuotationPress.Key

/-- A key in a data listing. -/
def listing : Key → String
  | text s => Text.quoted s
  | date d => Value.dateListing d
  | moment m => Value.momentListing m
  | k => k.label

end QuotationPress.Key

namespace QuotationPress.Value

mutual

/-- A value inside a list or an object. -/
def listing : Value → Outcome String
  | null => .ok "None"
  | bool b => .ok (if b then "True" else "False")
  | int i => intText i
  | float x => .ok (String.ofList x.text)
  | decimal d => .ok ("Decimal('" ++ String.ofList d.text ++ "')")
  | date d => .ok (dateListing d)
  | moment m => .ok (momentListing m)
  | str s => .ok (Text.quoted s)
  | list xs => do return "[" ++ joinedBy ", " (← listings xs) ++ "]"
  | tuple [] => .ok "()"
  | tuple [x] => do return "(" ++ (← listing x) ++ ",)"
  | tuple xs => do return "(" ++ joinedBy ", " (← listings xs) ++ ")"
  | obj fs => do return "\x7b" ++ joinedBy ", " (← fieldListings fs) ++ "\x7d"
  | keyed es => do return "\x7b" ++ joinedBy ", " (← entryListings es) ++ "\x7d"
  | bytes bs => .ok (Text.quotedBytes bs)
  | keySet [] => .ok "set()"
  | keySet ks => .ok ("\x7b" ++ joinedBy ", " (ks.map Key.listing) ++ "\x7d")

def listings : List Value → Outcome (List String)
  | [] => .ok []
  | x :: rest => do return (← listing x) :: (← listings rest)

def fieldListings : List (String × Value) → Outcome (List String)
  | [] => .ok []
  | (key, v) :: rest =>
    do return (Text.quoted key ++ ": " ++ (← listing v)) :: (← fieldListings rest)

def entryListings : List (Key × Value) → Outcome (List String)
  | [] => .ok []
  | (key, v) :: rest => do return (key.listing ++ ": " ++ (← listing v)) :: (← entryListings rest)

end

def text : Value → Outcome String
  | str s => .ok s
  | decimal d => .ok (String.ofList d.text)
  | date d => .ok d.isoForm
  | moment m => .ok (m.isoWith ' ')
  | v => v.listing

end QuotationPress.Value
