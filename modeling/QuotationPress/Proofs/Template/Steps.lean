import QuotationPress.Template.Builder

/-!
# Builders at work

`BuilderStep` is one step of building a template with its arguments, and `Builder.Reachable` holds
of every builder that such steps lead to from a new or an imported template, when all values that
they are given are of some sort.
-/

namespace QuotationPress

/-- One step of building a template. -/
inductive BuilderStep where
  | add (a : Builder.Addition)
  | update (id : String) (changes : Fields)
  | remove (id : String)
  | reorder (ids : List String)
  | applyTheme (theme : Value)

/-- Every value in the description of a new element is of some sort. -/
structure Builder.Addition.All (P : Value → Prop) (a : Builder.Addition) : Prop where
  type : P a.type
  content : P a.content
  style : P a.style
  visible : P a.visible
  config : P a.config
  extra : P (.obj a.extra)

namespace BuilderStep

/-- The builder after a step that succeeds; one that fails leaves it as it was. -/
def apply : BuilderStep → Builder → Outcome Builder
  | add a, b => b.add a
  | update id changes, b => b.update id changes
  | remove id, b => .ok (b.remove id)
  | reorder ids, b => .ok (b.reorder ids)
  | applyTheme theme, b => b.applyTheme theme

/-- Every value that a step is given is of some sort. -/
def All (P : Value → Prop) : BuilderStep → Prop
  | add a => a.All P
  | update _ changes => P (.obj changes)
  | applyTheme theme => P theme
  | _ => True

end BuilderStep

/-- The builders that steps lead to from a new or an imported template. -/
inductive Builder.Reachable (P : Value → Prop) : Builder → Prop
  | create {description : Fields} {b : Builder} (given : P (.obj description))
    (made : create description = .ok b) : Reachable P b
  | imported {issued : Nat} {data : Fields} {b : Builder} (given : P (.obj data))
    (made : imported issued data = .ok b) : Reachable P b
  | step {b b' : Builder} (s : BuilderStep) (reached : Reachable P b) (given : s.All P)
    (made : s.apply b = .ok b') : Reachable P b'

end QuotationPress
