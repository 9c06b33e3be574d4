import QuotationPress.Text.Case

/-!
# Search patterns with wildcards

A per cent sign stands for any run of characters and a low line for any one character.
`matchesPattern` compares characters as they are, `isLike` without regard to the case of ASCII
letters, and `holdsLike` looks for a pattern anywhere in a text.
-/

namespace QuotationPress.Text

/-- Whether a pattern fits a whole text. -/
def matchesPattern : List Char → List Char → Bool
  | [], cs => cs.isEmpty
  | '%' :: pattern, cs => matchesPattern pattern cs || skipping (matchesPattern pattern) cs
  | '_' :: pattern, cs => match cs with
    | [] => false
    | _ :: rest => matchesPattern pattern rest
  | p :: pattern, cs => match cs with
    | [] => false
    | c :: rest => p == c && matchesPattern pattern rest
where
  /-- Whether some shorter end of a text passes a test. -/
  skipping (test : List Char → Bool) : List Char → Bool
    | [] => false
    | _ :: rest => test rest || skipping test rest

/-- What stands before the first null character: there both patterns and texts end. -/
def beforeNull (s : String) : List Char := s.toList.takeWhile (·.toNat ≠ 0)

def isLike (pattern s : String) : Bool :=
  matchesPattern (beforeNull (asciiLower pattern)) (beforeNull (asciiLower s))

/-- Whether a pattern fits some part of a text. -/
def holdsLike (pattern s : String) : Bool := isLike ("%" ++ pattern ++ "%") s

end QuotationPress.Text
