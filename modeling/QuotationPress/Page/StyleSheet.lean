/-!
# Style sheets

A sheet is a list of rules, some of them inside a block for one medium; `StyleSheet.text` writes one
rule a line.
-/

namespace QuotationPress

structure StyleRule where
  selector : String
  /-- Properties and their values, in order. -/
  declarations : List (String × String)
  deriving Repr, DecidableEq

inductive StyleBlock where
  | rule (r : StyleRule)
  | media (medium : String) (rules : List StyleRule)
  deriving Repr, DecidableEq

abbrev StyleSheet := List StyleBlock

def StyleRule.text (r : StyleRule) : String :=
  r.selector ++ " \x7b" ++
    String.join (r.declarations.map fun d => " " ++ d.1 ++ ": " ++ d.2 ++ ";")
    ++ " \x7d"

def StyleBlock.text : StyleBlock → String
  | rule r => r.text
  | media medium rules =>
    "@media " ++ medium ++ " \x7b\n" ++
      String.join (rules.map fun r => "  " ++ r.text ++ "\n") ++ "\x7d"

/-- The blocks, with line breaks between them. -/
def StyleSheet.text : StyleSheet → String
  | [] => ""
  | [b] => b.text
  | b :: rest => b.text ++ "\n" ++ text rest

end QuotationPress
