import QuotationPress.Validation.Lenient

/-!
# The business data of one document, in buckets

`RenderContext.check` reads it from loosely typed data, `RenderContext.mapping` gives it as one
object in which client and customer stand in for each other.
-/

namespace QuotationPress

structure RenderContext where
  company : Fields := []
  client : Fields := []
  customer : Fields := []
  quotation : Fields := []
  items : List Fields := []
  totals : Fields := []
  tax : Fields := []
  /-- Buckets of other names. -/
  extra : Fields := []

namespace RenderContext

open Checked (optional)

def bucketNames : List String :=
  ["company", "client", "customer", "quotation", "items", "totals", "tax"]

def ofFields (fs : Fields) : Checked RenderContext :=
  mk <$> optional .plain fs "company" [] Lenient.object
    <*> optional .plain fs "client" [] Lenient.object
    <*> optional .plain fs "customer" [] Lenient.object
    <*> optional .plain fs "quotation" [] Lenient.object
    <*> optional .plain fs "items" [] (Lenient.listOf Lenient.object)
    <*> optional .plain fs "totals" [] Lenient.object
    <*> optional .plain fs "tax" [] Lenient.object
    <*> .good (fs.filter fun e => !bucketNames.contains e.1)

def check (v : Value) : Checked RenderContext := (Lenient.record "RenderContext" v).andThen ofFields

def read? (v : Value) : Outcome RenderContext := (check v).outcome "RenderContext"

/-- All buckets as given. -/
def fields (c : RenderContext) : Fields :=
  [("company", .obj c.company), ("client", .obj c.client), ("customer", .obj c.customer),
    ("quotation", .obj c.quotation), ("items", .list (c.items.map Value.obj)),
    ("totals", .obj c.totals), ("tax", .obj c.tax)] ++ c.extra

/-- Client and customer filled from each other where one of them is empty. -/
def mirrored (c : RenderContext) : RenderContext :=
  if c.client.isEmpty then { c with client := c.customer }
  else if c.customer.isEmpty then { c with customer := c.client }
  else c

def mapping (c : RenderContext) : Fields := c.mirrored.fields

end RenderContext

end QuotationPress
