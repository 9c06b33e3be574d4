import QuotationPress.Pdf.Engine
import QuotationPress.Text.Case
import QuotationPress.Text.Percent
import QuotationPress.Text.Split
import QuotationPress.Validation.Lenient

/-!
# Requests and responses of the web site

A `WebRequest` has a path that is already decoded, named parameters and a body;
`WebRequest.ofTarget` makes it from an address, and `WebRequest.parameter` and `WebRequest.bodyOf`
read it. A `WebResponse` is a status and a content, which has a media type.
-/

namespace QuotationPress

inductive WebBody where
  | none
  /-- Bytes that nobody has declared to be JSON. -/
  | bytes
  | json (v : Value)

structure WebRequest where
  method : String
  path : String
  parameters : List (String × String) := []
  body : WebBody := .none

namespace WebRequest

/-- One word of a query, in which a plus stands for a blank. -/
def queryWord (s : String) : String :=
  Text.percentDecoded (String.ofList (s.toList.map fun c => if c = '+' then ' ' else c))

/-- The named values of a query such as `limit=5&scope=sales`. -/
def queryParameters (query : String) : List (String × String) :=
  ((Text.splitAt '&' query).filter (· ≠ "")).map fun part =>
    let (name, value) := Text.partition '=' part
    (queryWord name, queryWord value)

/-- The parts of a path that are left when `.` stands for the place itself and `..` for the one
above; `above` are the parts before, the last one first. -/
def withoutDots : List String → List String → List String
  | above, [] => above.reverse
  | above, part :: rest =>
    if part = "." then withoutDots above rest
    else if part = ".." then withoutDots (if above = [""] then above else above.drop 1) rest
    else withoutDots (part :: above) rest

/-- What is left of a path behind two slashes and the name of a host. -/
def withoutHost : List Char → List Char
  | '/' :: '/' :: rest => rest.dropWhile (· ≠ '/')
  | cs => cs

/-- The path that a written path leads to; it begins with a slash. -/
def plainPath (path : String) : String :=
  let below := String.ofList ((withoutHost path.toList).dropWhile (· == '/'))
  let plain := "/".intercalate (withoutDots [""] (Text.splitAt '/' below))
  if plain = "" then "/" else plain

/-- A request for a target: a path, a query after a question mark, and a place on the page after a
number sign, which plays no part. A method may be written in any letter case. -/
def ofTarget (method target : String) (body : WebBody) : WebRequest :=
  let (path, query) := Text.partition '?' (Text.partition '#' target).1
  { method := Text.toUpper method, path := Text.percentDecoded (plainPath path)
    parameters := queryParameters query, body }

/-- The last value of a parameter counts. -/
def parameter? (r : WebRequest) (name : String) : Option String := r.parameters.reverse.lookup name

/-- Reads a parameter that may be left out. -/
def parameter {α : Type} (r : WebRequest) (name : String) (fallback : α)
    (read : Value → Checked α) :
    Checked α :=
  match r.parameter? name with
  | some s => ((read (.str s)).under name).under "query"
  | none => .good fallback

/-- The text of a parameter, empty when it is left out. -/
def textParameter (r : WebRequest) (name : String) : String := (r.parameter? name).getD ""

/-- Reads a body that may be left out. Only an object has fields to read. -/
def optionalBody {α : Type} (r : WebRequest) (absent : Checked α) (read : Fields → Checked α) :
    Checked α :=
  (match r.body with
  | .none => absent
  | .json .null => absent
  | .json (.obj fs) => read fs
  | _ => .fault .notAttributes).under "body"

def bodyOf {α : Type} (r : WebRequest) (read : Fields → Checked α) : Checked α :=
  r.optionalBody (.fault .missing) read

end WebRequest

inductive WebContent where
  | json (v : Value)
  | html (text : String)
  | plain (text : String)
  | file (pdf : Bytes) (filename : String)
  /-- Nothing, where JSON could have been. -/
  | none
  /-- Nothing, the client being sent to another path. -/
  | elsewhere (path : String)

namespace WebContent

def mediaType? : WebContent → Option String
  | json _ => some "application/json"
  | html _ => some "text/html; charset=utf-8"
  | plain _ => some "text/plain; charset=utf-8"
  | file .. => some "application/pdf"
  | none => some "application/json"
  | elsewhere _ => Option.none

/-- How a file is to be saved. -/
def disposition? : WebContent → Option String
  | file _ filename => some ("attachment; filename=\"" ++ filename ++ "\"")
  | _ => Option.none

end WebContent

structure WebResponse where
  status : Nat
  content : WebContent

namespace WebResponse

def ok (v : Value) : WebResponse := ⟨200, .json v⟩

def detail (status : Nat) (v : Value) : WebResponse := ⟨status, .json (.obj [("detail", v)])⟩

def notFound (what : String) : WebResponse := detail 404 (.str what)

/-- One reason why a request is refused. -/
def issueValue (typed : Bool) (i : Issue) : Value :=
  .obj ((if typed then [("type", .str i.fault.code)] else [])
    ++ [("loc", .list (i.path.map Value.str)), ("msg", .str i.fault.text)])

/-- Every reason why a request is refused, with its code or without. -/
def refused (typed : Bool) (issues : List Issue) : WebResponse :=
  detail 422 (.list (issues.map (issueValue typed)))

/-- The response to a failure that a caller can do something about; all others are internal. -/
def ofFailure : Failure → WebResponse
  | .unknownTemplate id => notFound (Failure.unknownTemplate id).message
  | .unknownQuotation id => notFound (Failure.unknownQuotation id).message
  | .production reason =>
    ⟨502, .json (.obj [("detail", .str "PDF generation failed"), ("error", .str reason)])⟩
  | _ => ⟨500, .plain "Internal Server Error"⟩

/-- A response to `HEAD` keeps its status and its media type only. -/
def fitFor (r : WebRequest) (x : WebResponse) : WebResponse :=
  match x.content with
  | .json _ => if r.method = "HEAD" then { x with content := .none } else x
  | _ => x

/-- The response that an outcome makes. -/
def ofOutcome {α : Type} (respond : α → WebResponse) : Outcome α → WebResponse
  | .ok a => respond a
  | .error f => ofFailure f

end WebResponse

end QuotationPress
