import QuotationPress.Store.Row

/-!
# The template store

A store has rows in the order in which they came, a clock, and a count of the ids that have been
issued. `Store.find?` looks a row up, `Store.modify` and `Store.insert` change the rows, and
`Store.clearDefaults` takes the default mark from the rows of a scope.
-/

namespace QuotationPress

/-- The first moment of a store's clock. -/
def storeEpoch : Moment := Moment.atMidnight { year := 2026, month := 1, day := 1 }

structure Store where
  rows : List TemplateRow := []
  clock : Moment := storeEpoch
  /-- How many ids have been issued; the next one carries the next number. -/
  issued : Nat := 0

namespace Store

def find? (s : Store) (id : String) : Option TemplateRow := s.rows.find? (·.id = id)

/-- The row, if it may be used: an inactive row only where those are asked for. -/
def findUsable? (s : Store) (id : String) (withInactive : Bool) : Option TemplateRow :=
  (s.find? id).filter fun r => r.isActive || withInactive

/-- Changes the row with an id; all others stay as they are. -/
def modify (s : Store) (id : String) (f : TemplateRow → TemplateRow) : Store :=
  { s with rows := s.rows.map fun r => if r.id = id then f r else r }

/-- Changes a row and dates the change. -/
def update (s : Store) (id : String) (f : TemplateRow → TemplateRow) : Store :=
  s.modify id fun r => { f r with updatedAt := s.clock }

/-- Adds a row behind all others, unless its id is taken. -/
def insert (s : Store) (r : TemplateRow) : Outcome Store :=
  if (s.find? r.id).isSome then .error .duplicateRow else .ok { s with rows := s.rows ++ [r] }

/-- Whether a row gives up the default mark when `keep` becomes the default of `scope`. -/
def losesDefault (scope : String) (keep : Option String) (r : TemplateRow) : Bool :=
  r.scope = scope && r.isDefault && some r.id ≠ keep

/-- Takes the default mark from the rows of a scope, all but one, and dates the change. -/
def clearDefaults (s : Store) (scope : String) (keep : Option String) : Store :=
  { s with rows := s.rows.map fun r =>
      if losesDefault scope keep r then { r with isDefault := false, updatedAt := s.clock } else r }

/-- An id that has not been issued before. -/
def issueId (s : Store) : String × Store :=
  ("tpl_" ++ String.ofList (numeral (s.issued + 1)), { s with issued := s.issued + 1 })

/-- Moves the clock; it stands still at the end of the calendar. -/
def tick (s : Store) (seconds : Nat) : Store :=
  { s with clock := (s.clock.addSeconds? seconds).getD s.clock }

/-! ### Small facts -/

theorem losesDefault_keep (r : TemplateRow) (scope : String) :
    losesDefault scope (some r.id) r = false := by
  simp [losesDefault]

@[simp] theorem clearDefaults_issued (s : Store) (scope : String) (keep : Option String) :
    (s.clearDefaults scope keep).issued = s.issued := rfl

@[simp] theorem clearDefaults_clock (s : Store) (scope : String) (keep : Option String) :
    (s.clearDefaults scope keep).clock = s.clock := rfl

theorem map_id_clearDefaults (s : Store) (scope : String) (keep : Option String) :
    (s.clearDefaults scope keep).rows.map TemplateRow.id = s.rows.map TemplateRow.id := by
  simp only [clearDefaults, List.map_map]
  exact List.map_congr_left fun r _ => by simp only [Function.comp]; split <;> rfl

end Store

end QuotationPress
