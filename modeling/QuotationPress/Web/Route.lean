import QuotationPress.Text.Split

/-!
# The paths of the web site

`Route.ofPath` lists what can be done at a path, each with the method that asks for it; `Route.find`
settles a request: a route, a method that is not allowed, a path with or without a slash at its end,
or nothing.
-/

namespace QuotationPress

inductive Route where
  | health
  | listTemplates
  | createTemplate
  | readDefault
  | previewTemplate
  | syncTemplates
  | readTemplate (id : String)
  | replaceTemplate (id : String)
  | patchTemplate (id : String)
  | deleteTemplate (id : String)
  | setDefault (id : String)
  | duplicateTemplate (id : String)
  | previewQuotation (id : String)
  | quotationFile (id : String)
  | produceFile
  | produceBatch
  deriving Repr, DecidableEq

namespace Route

/-- What can be done with a template. -/
def ofTemplate (id : String) : List (String × Route) :=
  [("GET", readTemplate id), ("PUT", replaceTemplate id), ("PATCH", patchTemplate id),
    ("DELETE", deleteTemplate id)]

def named (id : String) (routes : List (String × Route)) : List (String × Route) :=
  if id = "" then [] else routes

/-- What can be done at a path that ends in a fixed name, given by its parts. -/
def fixed : List String → List (String × Route)
  | ["", "health"] => [("GET", health)]
  | ["", "api", "templates", ""] => [("GET", listTemplates), ("POST", createTemplate)]
  | ["", "api", "templates", "default"] => [("GET", readDefault)]
  | ["", "api", "templates", "preview"] => [("POST", previewTemplate)]
  | ["", "api", "templates", "sync"] => [("POST", syncTemplates)]
  | ["", "api", "templates", id, "default"] => named id [("POST", setDefault id)]
  | ["", "api", "templates", id, "duplicate"] => named id [("POST", duplicateTemplate id)]
  | ["", "api", "quotations", id, "preview"] => named id [("GET", previewQuotation id)]
  | ["", "api", "quotations", id, "pdf"] => named id [("GET", quotationFile id)]
  | ["", "api", "documents", "pdf"] => [("POST", produceFile)]
  | ["", "api", "documents", "batch"] => [("POST", produceBatch)]
  | _ => []

/-- What can be done at a path that ends in the name of a template. -/
def ofNamed : List String → List (String × Route)
  | ["", "api", "templates", id] => named id (ofTemplate id)
  | _ => []

/-- What can be done at a path. A line break behind a fixed name does no harm; fixed names come
before names of templates. -/
def ofPath (path : String) : List (String × Route) :=
  let plain := String.ofList (Text.withoutFinalBreak path.toList)
  fixed (Text.splitAt '/' plain) ++ ofNamed (Text.splitAt '/' path)

inductive Found where
  | route (r : Route)
  | methodNotAllowed
  /-- The path would be known with a slash at its end, or without. -/
  | elsewhere (path : String)
  | nothing
  deriving Repr, DecidableEq

def dropSlashes (path : String) : String :=
  String.ofList (path.toList.reverse.dropWhile (· == '/')).reverse

/-- The path with a slash at its end if it has none, and without any if it has one. -/
def otherPath (path : String) : String :=
  if path.endsWith "/" then dropSlashes path else path ++ "/"

def find (method path : String) : Found :=
  match ofPath path with
  | [] =>
    if path ≠ "/" && !(ofPath (otherPath path)).isEmpty then .elsewhere (otherPath path)
      else .nothing
  | routes =>
    match routes.lookup method with
    | some r => .route r
    | none => .methodNotAllowed

end Route

end QuotationPress
