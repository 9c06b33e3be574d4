import QuotationPress.Failure
import QuotationPress.Value.Basic

/-!
# Going through a value member by member

Lists have members, and so have texts, whose members are their characters, bytes, whose members are
numbers, and objects and sets, whose members are their keys.
-/

namespace QuotationPress.Value

def members : Value → Outcome (List Value)
  | list xs => .ok xs
  | tuple xs => .ok xs
  | str s => .ok (s.toList.map fun c => str (String.singleton c))
  | obj fs => .ok (fs.map fun e => str e.1)
  | keyed es => .ok (es.map fun e => ofKey e.1)
  | bytes bs => .ok (bs.map fun b => int b.toNat)
  | keySet ks => .ok (ks.map ofKey)
  | v => .error (.notIterable v.kindName)

end QuotationPress.Value
