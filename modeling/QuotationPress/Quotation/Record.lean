import QuotationPress.Context.RenderContext
import QuotationPress.Format.Amount
import QuotationPress.Quotation.DerivedNumber
import QuotationPress.Settings
import QuotationPress.Value.Members

/-!
# Quotation records and the contexts they give

A record is loosely typed and may use several names for one thing; `contextOfRecord` maps it to the
buckets that templates address.
-/

namespace QuotationPress

namespace Record

/-- The day of a date, a moment or a text that is not blank: the day of a moment in ISO form, or
else the date that its first ten characters are. -/
def dayOf? : Value → Option Date
  | .moment m => some m.date
  | .date d => some d
  | .str s =>
    let cs := Text.trim s.toList
    if cs.isEmpty then none
    else (Iso.readMoment? (Format.expandZulu cs)).map Moment.date <|> Iso.readDate? (cs.take 10)
  | _ => none

/-- The first value that is filled in. -/
def firstFilled (vs : List Value) : Value := (vs.find? fun v => !v.isBlankField).getD .null

def blank : Value := .str ""

/-- A name that stands for the whole record of a person or company. -/
def named (v : Value) : Outcome Fields := do
  let name := Text.strip (← v.text)
  return if name.isEmpty then [] else [("name", .str name)]

/-- The record of a person or company, or a bare name. -/
def party (v : Value) : Outcome Fields :=
  match v.fields?, v with
  | some fs, _ => .ok fs
  | none, .str s => named (.str s)
  | none, .int i => named (.int i)
  | none, .float x => named (.float x)
  | none, _ => .ok []

/-- The contact that the quotation names wins over the customer on file. -/
def client (record : Fields) : Outcome Fields := do
  let customer ← party (record.get "customer")
  let contact ← party (record.get "customer_contact")
  let entry (vs : List Value) : Value := (firstFilled vs).orElse blank
  return [
    ("name", entry [contact.get "name", customer.get "name", record.get "customer_name"]),
    ("company", entry [contact.get "company_name", contact.get "company", customer.get "company"]),
    ("address", entry [contact.get "address", customer.get "address", record.get "address"]),
    ("phone", entry [contact.get "phone", customer.get "phone"]),
    ("email", entry [contact.get "email", customer.get "email"])]

/-- `12 days`, when a number of days is given. -/
def daysText? (record : Fields) : Outcome (Option String) :=
  let days := record.get "number_of_days"
  if days.isTruthy then do return some ((← days.text) ++ " days") else .ok none

/-- Quantity times rate, as a whole number when it is one. -/
def computedAmount (quantity rate : Value) : Outcome Value := do
  let q ← Format.readAmount? quantity
  let r ← Format.readAmount? rate
  match q, r with
  | some q, some r =>
    let product := Binary64.mul q r
    return match product.whole? with
    | some i => .int i
    | none => .float product
  | _, _ => return .null

/-- A line of the quotation; entries of other names are kept behind the named ones. -/
def item (raw : Fields) (index : Nat) (record : Fields) : Outcome Fields := do
  let quantity := firstFilled [raw.get "quantity", .int 1]
  let rate := firstFilled [raw.get "rate", raw.get "base_rate", raw.get "baseRate"]
  let given := raw.get "amount"
  let amount ← if given.isBlankField then computedAmount quantity rate else pure given
  let days ← daysText? record
  let entry (vs : List Value) : Value := (firstFilled vs).orElse blank
  let named : Fields := [
    ("no", .int (index + 1)),
    ("description", entry [raw.get "description", raw.get "name", raw.get "equipment_name"]),
    ("capacity", entry [raw.get "capacity", raw.get "max_lifting_capacity"]),
    ("jobType", entry [raw.get "jobType", raw.get "job_type", record.get "order_type"]),
    ("quantity", quantity),
    ("unit", (raw.get "unit").orElse blank),
    ("duration", entry [raw.get "duration", .ofText? days]),
    ("rate", rate),
    ("rental", raw.get "rental"),
    ("mobilization", raw.get "mobilization"),
    ("demobilization", raw.get "demobilization"),
    ("amount", amount)]
  return raw.foldl (fun fs e => fs.putNew e.1 e.2) named

/-- The entries that are objects, each with its position among all entries. -/
def items (record : Fields) : Nat → List Value → Outcome (List Fields)
  | _, [] => .ok []
  | index, raw :: rest =>
    match raw.fields? with
    | some fs => do return (← item fs index record) :: (← items record (index + 1) rest)
    | none => items record (index + 1) rest

/-- The lines of a record under either of their names. -/
def rawItems (record : Fields) : Outcome (List Value) :=
  let v := (record.get "items").orElse (record.get "selected_machines")
  if v.isTruthy then v.members else .ok []

/-- An amount of money under the first name that is filled in, zero when none is. -/
def money (record : Fields) (keys : List String) : Outcome Value := do
  let amount := (firstFilled (keys.map record.get)).orElse (.int 0)
  return .str (← Format.currency Settings.currencySymbol amount)

/-- The day on which the quotation was issued. -/
def issuedOn (record : Fields) (today : Date) : Date :=
  (dayOf? (firstFilled [record.get "created_at", record.get "date"])).getD today

def validUntil (record : Fields) (issued : Date) : Outcome Date :=
  match dayOf? (record.get "valid_until") with
  | some d => .ok d
  | none =>
    match issued.addDays? Settings.validityDays with
    | some d => .ok d
    | none => .error .dateOutOfRange

def totals (record : Fields) : Outcome Fields := do
  return [
    ("subtotal", ← money record ["total_rent", "subtotal"]),
    ("discount", ← money record ["discount"]),
    ("tax", ← money record ["gst_amount", "tax"]),
    ("total", ← money record ["total_cost", "total"]),
    ("workingCost", ← money record ["working_cost"]),
    ("mobDemobCost", ← money record ["mob_demob_cost"]),
    ("foodAccomCost", ← money record ["food_accom_cost"])]

/-- What is wrong with the keys of a company and of the lines: all have to be texts. -/
def keyIssues (company : Value) (lines : List Value) : List Issue :=
  (Lenient.strayIssues company).map (Issue.under "company")
    ++ ((lines.filter Value.isObject).zipIdx.flatMap fun (line, i) =>
      (Lenient.strayIssues line).map fun issue =>
        (issue.under (String.ofList (numeral i))).under "items")

def idText (record : Fields) : Outcome String := ((record.get "id").orElse blank).text

def quotation (record : Fields) (id : String) (issued valid : Date) : Outcome Fields := do
  let number := (firstFilled [record.get "quotation_number", record.get "number"]).orElse
    (.str (derivedNumber id))
  let days ← daysText? record
  return [
    ("id", .str id), ("number", number), ("date", .str issued.longForm),
    ("validUntil", .str valid.longForm), ("machineType", (record.get "machine_type").orElse blank),
    ("duration", .str (days.getD "")),
    ("paymentTerms",
      (record.get "payment_terms").orElse (.str "50% advance, balance on completion")),
    ("terms", (record.get "terms").orElse blank)]

end Record

/-- The context of a record. `company` and the company of the record are laid over the identity of
the house. -/
def contextOfRecord (record company : Fields) (today : Date) : Outcome RenderContext := do
  let id ← Record.idText record
  let issued := Record.issuedOn record today
  let valid ← Record.validUntil record issued
  let lines ← Record.rawItems record
  let items ← Record.items record 0 lines
  let own ← Record.party (record.get "company")
  let client ← Record.client record
  let quotation ← Record.quotation record id issued valid
  let totals ← Record.totals record
  let issues := Record.keyIssues (record.get "company") lines
  if !issues.isEmpty then throw (.invalid "RenderContext" issues)
  return {
    company := Fields.overlay (Fields.overlay Settings.company company) own
    client, quotation, items, totals
    tax := [("rate", Record.firstFilled [record.get "gst_rate", .int 18])] }

end QuotationPress
