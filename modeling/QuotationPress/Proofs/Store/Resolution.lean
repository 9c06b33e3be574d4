import Mathlib.Data.String.Basic
import QuotationPress.Proofs.Store.WriteBack
import QuotationPress.Store.Query

/-!
# Which template a page is made with

`Store.Chosen` lists the four choices in the order of their precedence: the active row that is asked
for, the default row of the scope, the oldest row of the scope, and the built-in template.
`Store.chosen_defaultRow?` says that the search for a default makes one of the last three, and
`run_resolve` that in every store that a run of actions leads to a template is resolved by the first
that applies.
-/

namespace QuotationPress

/-! ### Moments and rows in order -/

namespace Moment

/-- Microseconds from the beginning of the calendar, offsets left out. -/
def micros (m : Moment) : Nat := (m.date.ordinal * 86400 + m.secondOfDay) * 1000000 + m.micro

theorem before_iff {a b : Moment} : a.before b = true ↔ a.micros < b.micros := decide_eq_true_iff

end Moment

namespace TemplateRow

variable {a b c : TemplateRow}

/-- The row was changed later, or in the same moment and has a higher version. -/
def LaterThan (a b : TemplateRow) : Prop :=
  b.updatedAt.before a.updatedAt = true ∨
    (a.updatedAt.before b.updatedAt ≠ true ∧ b.version < a.version)

/-- The row was made earlier, or in the same moment and has a lesser id. -/
def EarlierThan (a b : TemplateRow) : Prop :=
  a.createdAt.before b.createdAt = true ∨ (b.createdAt.before a.createdAt ≠ true ∧ a.id < b.id)

theorem laterThan_iff : a.LaterThan b ↔ b.updatedAt.micros < a.updatedAt.micros ∨
    (b.updatedAt.micros ≤ a.updatedAt.micros ∧ b.version < a.version) := by
  rw [LaterThan, Moment.before_iff, ne_eq, Moment.before_iff, not_lt]

theorem earlierThan_iff : a.EarlierThan b ↔ a.createdAt.micros < b.createdAt.micros ∨
    (a.createdAt.micros ≤ b.createdAt.micros ∧ a.id < b.id) := by
  rw [EarlierThan, Moment.before_iff, ne_eq, Moment.before_iff, not_lt]

/-- Fresher is what none that was changed later stands against. -/
theorem fresherThan_iff : a.fresherThan b = true ↔ ¬ b.LaterThan a := by
  unfold fresherThan LaterThan
  by_cases hab : a.updatedAt.before b.updatedAt = true
  · simp [hab]
  · by_cases hba : b.updatedAt.before a.updatedAt = true
    · simp [hab, hba]
    · simp [hab, hba]

/-- Older is what none that was made earlier stands against. -/
theorem olderThan_iff : a.olderThan b = true ↔ ¬ b.EarlierThan a := by
  unfold olderThan EarlierThan
  by_cases hab : a.createdAt.before b.createdAt = true
  · have hba : ¬ b.createdAt.before a.createdAt = true := fun h =>
      lt_asymm (Moment.before_iff.mp hab) (Moment.before_iff.mp h)
    simp [hab, hba]
  · by_cases hba : b.createdAt.before a.createdAt = true
    · simp [hab, hba]
    · rw [if_neg hab, if_neg hba, decide_eq_true_iff, not_or, not_and, not_lt]
      exact ⟨fun h => ⟨hba, fun _ => h⟩, fun h => h.2 hab⟩

theorem fresherThan_trans (a b c : TemplateRow) (hab : a.fresherThan b = true)
    (hbc : b.fresherThan c = true) :
    a.fresherThan c = true := by
  rw [fresherThan_iff, laterThan_iff] at *
  omega

theorem fresherThan_total (a b : TemplateRow) : (a.fresherThan b || b.fresherThan a) = true := by
  rw [Bool.or_eq_true, fresherThan_iff, fresherThan_iff, laterThan_iff, laterThan_iff]
  omega

theorem olderThan_trans (a b c : TemplateRow) (hab : a.olderThan b = true)
    (hbc : b.olderThan c = true) :
    a.olderThan c = true := by
  rw [olderThan_iff, earlierThan_iff, not_or, not_and, not_lt, not_lt] at *
  refine ⟨hab.1.trans hbc.1, fun h => ?_⟩
  have hba : b.createdAt.micros ≤ a.createdAt.micros := hbc.1.trans h
  have hcb : c.createdAt.micros ≤ b.createdAt.micros := h.trans hab.1
  exact (hab.2 hba).trans (hbc.2 hcb)

theorem olderThan_total (a b : TemplateRow) : (a.olderThan b || b.olderThan a) = true := by
  rw [Bool.or_eq_true, olderThan_iff, olderThan_iff, earlierThan_iff, earlierThan_iff]
  by_contra h
  rw [not_or, not_not, not_not] at h
  rcases h with ⟨hba | ⟨hba, hid⟩, hab | ⟨hab, hid'⟩⟩
  · omega
  · omega
  · omega
  · exact lt_asymm hid hid'

/-! ### The choices -/

/-- An active row that is asked for by its id; the empty id asks for none. -/
def IsNamed (r : TemplateRow) (id : String) : Prop := id ≠ "" ∧ r.isActive = true ∧ r.id = id

/-- An active row of a scope. -/
def IsUsedIn (r : TemplateRow) (scope : String) : Prop := r.isActive = true ∧ r.scope = scope

/-- An active default row of a scope. -/
def IsDefaultOf (r : TemplateRow) (scope : String) : Prop := r.IsUsedIn scope ∧ r.isDefault = true

instance (id : String) : Decidable (a.IsNamed id) := inferInstanceAs (Decidable (_ ∧ _ ∧ _))

instance (scope : String) : Decidable (a.IsUsedIn scope) := inferInstanceAs (Decidable (_ ∧ _))

instance (scope : String) : Decidable (a.IsDefaultOf scope) := inferInstanceAs (Decidable (_ ∧ _))

instance : Decidable (a.LaterThan b) := inferInstanceAs (Decidable (_ ∨ _))

theorem not_isNamed_empty (r : TemplateRow) : ¬ r.IsNamed "" := fun h => h.1 rfl

end TemplateRow

/-- The template of a row, or the built-in one where there is no row or the row cannot be read. -/
def served : Option TemplateRow → Template
  | none => fallbackTemplate
  | some r => match r.template with
    | .ok t => t
    | .error _ => fallbackTemplate

theorem TemplateRow.template_served {r : TemplateRow} (read : Outcome.Succeeds r.template) :
    r.template = .ok (served (some r)) := by
  obtain ⟨t, ht⟩ := read
  rw [served, ht]

namespace Store

variable {s : Store} {id scope : String} {r : TemplateRow}

/-- The row that is chosen for an id and a scope, if any is: each choice is made where those before
it cannot be. -/
inductive Chosen (s : Store) (id scope : String) : Option TemplateRow → Prop where
  | named (r : TemplateRow) (stored : r ∈ s.rows)
      (named : r.IsNamed id) : Chosen s id scope (some r)
  /-- Of several defaults the one that was changed last is chosen. -/
  | marked (r : TemplateRow) (unnamed : ∀ x ∈ s.rows, ¬ x.IsNamed id) (stored : r ∈ s.rows)
      (marked : r.IsDefaultOf scope) (latest : ∀ x ∈ s.rows, x.IsDefaultOf scope →
        ¬ x.LaterThan r) :
      Chosen s id scope (some r)
  | oldest (r : TemplateRow) (unnamed : ∀ x ∈ s.rows, ¬ x.IsNamed id)
      (unmarked : ∀ x ∈ s.rows, ¬ x.IsDefaultOf scope) (stored : r ∈ s.rows)
      (used : r.IsUsedIn scope)
      (least : ∀ x ∈ s.rows, x.IsUsedIn scope → ¬ x.EarlierThan r) : Chosen s id scope (some r)
  | builtIn (unnamed : ∀ x ∈ s.rows, ¬ x.IsNamed id) (unused : ∀ x ∈ s.rows, ¬ x.IsUsedIn scope) :
      Chosen s id scope none

/-- What is chosen is in use. -/
theorem Chosen.isActive (h : s.Chosen id scope (some r)) : r.isActive = true := by
  cases h with
  | named _ _ named => exact named.2.1
  | marked _ _ _ marked _ => exact marked.1.1
  | oldest _ _ _ _ used _ => exact used.1

theorem Chosen.mem (h : s.Chosen id scope (some r)) : r ∈ s.rows := by
  cases h with
  | named _ stored _ => exact stored
  | marked _ _ stored _ _ => exact stored
  | oldest _ _ _ stored _ _ => exact stored

/-- Two rows neither of which is earlier bear one id. -/
theorem id_eq_of_not_earlierThan {a b : TemplateRow} (hab : ¬ a.EarlierThan b)
    (hba : ¬ b.EarlierThan a) :
    a.id = b.id := by
  rw [TemplateRow.earlierThan_iff, not_or, not_and, not_lt, not_lt] at hab hba
  exact le_antisymm (hba.2 hab.1) (hab.2 hba.1)

/-- Where ids are unique and no scope has two defaults, there is one choice. -/
theorem Chosen.unique (unique : s.UniqueIds) (single : s.SingleDefaults) {c c' : Option TemplateRow}
    (h : s.Chosen id scope c) (h' : s.Chosen id scope c') : c = c' := by
  -- each choice excludes those behind it; within a choice the ids or the single default decide
  cases h with
  | named r stored named =>
    cases h' with
    | named r' stored' named' =>
      rw [unique.eq_of_id_eq stored stored' (named.2.2.trans named'.2.2.symm)]
    | marked _ unnamed => exact absurd named (unnamed r stored)
    | oldest _ unnamed => exact absurd named (unnamed r stored)
    | builtIn unnamed => exact absurd named (unnamed r stored)
  | marked r unnamed stored marked latest =>
    cases h' with
    | named r' stored' named' => exact absurd named' (unnamed r' stored')
    | marked r' _ stored' marked' =>
      rw [single.eq_of_scope_eq stored stored' marked.2 marked'.2
        (marked.1.2.trans marked'.1.2.symm)]
    | oldest _ _ unmarked => exact absurd marked (unmarked r stored)
    | builtIn _ unused => exact absurd marked.1 (unused r stored)
  | oldest r unnamed unmarked stored used least =>
    cases h' with
    | named r' stored' named' => exact absurd named' (unnamed r' stored')
    | marked r' _ stored' marked' => exact absurd marked' (unmarked r' stored')
    | oldest r' _ _ stored' used' least' =>
      have same := id_eq_of_not_earlierThan (least' r stored used) (least r' stored' used')
      rw [unique.eq_of_id_eq stored stored' same]
    | builtIn _ unused => exact absurd used (unused r stored)
  | builtIn unnamed unused =>
    cases h' with
    | named r' stored' named' => exact absurd named' (unnamed r' stored')
    | marked r' _ stored' marked' => exact absurd marked'.1 (unused r' stored')
    | oldest r' _ _ stored' used' => exact absurd used' (unused r' stored')
    | builtIn => rfl

/-! ### The search for a default -/

/-- The first of the sorted rows comes before all rows. -/
theorem head?_mergeSort {le : TemplateRow → TemplateRow → Bool}
    (trans : ∀ a b c, le a b = true → le b c = true → le a c = true)
    (total : ∀ a b, (le a b || le b a) = true) {rows : List TemplateRow}
    (h : (rows.mergeSort le).head? = some r) :
    r ∈ rows ∧ ∀ x ∈ rows, le r x = true := by
  obtain ⟨rest, sorted⟩ := List.head?_eq_some_iff.mp h
  have ordered := List.pairwise_mergeSort trans total rows
  rw [sorted, List.pairwise_cons] at ordered
  have mem (x : TemplateRow) : x ∈ rows ↔ x ∈ r :: rest := by rw [← sorted, List.mem_mergeSort]
  refine ⟨(mem r).mpr List.mem_cons_self, fun x hx => ?_⟩
  -- the head itself is covered by totality, not by the order of the list
  rcases List.mem_cons.mp ((mem x).mp hx) with rfl | hx
  · simpa using total x x
  · exact ordered.1 x hx

theorem eq_nil_of_head?_mergeSort {le : TemplateRow → TemplateRow → Bool} {rows : List TemplateRow}
    (h : (rows.mergeSort le).head? = none) : rows = [] := by
  rw [List.head?_eq_none_iff] at h
  exact List.eq_nil_of_length_eq_zero
    ((List.length_mergeSort rows).symm.trans (congrArg List.length h))

theorem mem_activeRows : r ∈ s.activeRows scope ↔ r ∈ s.rows ∧ r.IsUsedIn scope := by
  rw [activeRows, List.mem_filter, Bool.and_eq_true, decide_eq_true_iff, TemplateRow.IsUsedIn]
  exact and_congr_right fun _ => and_comm

theorem mem_marked :
    r ∈ (s.activeRows scope).filter TemplateRow.isDefault ↔ r ∈ s.rows ∧ r.IsDefaultOf scope := by
  rw [List.mem_filter, mem_activeRows, TemplateRow.IsDefaultOf, and_assoc]

/-- The search for a default makes the choice that an id nobody has leaves. -/
theorem chosen_defaultRow? (unnamed : ∀ x ∈ s.rows, ¬ x.IsNamed id) (scope : String) :
    s.Chosen id scope (s.defaultRow? scope) := by
  unfold defaultRow?
  cases marked : s.markedRow? scope with
  | some r =>
    obtain ⟨hr, first⟩ :=
      head?_mergeSort TemplateRow.fresherThan_trans TemplateRow.fresherThan_total marked
    obtain ⟨stored, isDefault⟩ := mem_marked.mp hr
    exact .marked r unnamed stored isDefault fun x hx h =>
      TemplateRow.fresherThan_iff.mp (first x (mem_marked.mpr ⟨hx, h⟩))
  | none =>
    -- no head, so no row at all is marked
    have unmarked : ∀ x ∈ s.rows, ¬ x.IsDefaultOf scope := by
      intro x hx h
      have mem := mem_marked.mpr ⟨hx, h⟩
      rw [eq_nil_of_head?_mergeSort marked] at mem
      cases mem
    rw [Option.none_or]
    cases oldest : s.oldestRow? scope with
    | some r =>
      obtain ⟨hr, first⟩ :=
        head?_mergeSort TemplateRow.olderThan_trans TemplateRow.olderThan_total oldest
      obtain ⟨stored, used⟩ := mem_activeRows.mp hr
      exact .oldest r unnamed unmarked stored used fun x hx h =>
        TemplateRow.olderThan_iff.mp (first x (mem_activeRows.mpr ⟨hx, h⟩))
    | none =>
      refine .builtIn unnamed fun x hx h => ?_
      have mem := mem_activeRows.mpr ⟨hx, h⟩
      rw [eq_nil_of_head?_mergeSort oldest] at mem
      cases mem

/-- Whatever the rows hold, there is a default. -/
theorem defaultTemplate_eq (s : Store) (scope : String) :
    s.defaultTemplate scope = served (s.defaultRow? (filledText scope Settings.defaultScope)) := by
  unfold defaultTemplate defaultTemplate? served
  cases s.defaultRow? (filledText scope Settings.defaultScope) with
  | none => rfl
  | some r => cases h : r.template <;> simp only [h] <;> rfl

/-! ### The search for a template -/

/-- Nobody is found under an id that names no active row. -/
theorem resolve_of_unnamed (unnamed : ∀ x ∈ s.rows, ¬ x.IsNamed id) (scope : String) :
    s.resolve id scope = .ok (s.defaultTemplate scope) := by
  unfold resolve
  -- the empty id is not looked up
  by_cases empty : id = ""
  · rw [if_pos empty]
    rfl
  · have absent : s.findUsable? id false = none := by
      cases found : s.findUsable? id false with
      | none => rfl
      | some r =>
        obtain ⟨stored, active⟩ := findUsable?_eq_some found
        have hid : r.id = id := id_of_find? (Option.filter_eq_some_iff.mp found).1
        exact absurd ⟨empty, active, hid⟩ (unnamed r (mem_of_find? stored))
    rw [if_neg empty, get?, absent]
    rfl

/-- An active row that is asked for is found, whatever its scope. -/
theorem resolve_of_named (unique : s.UniqueIds) (stored : r ∈ s.rows) (named : r.IsNamed id)
    (scope : String) :
    s.resolve id scope = r.template := by
  obtain ⟨given, active, rfl⟩ := named
  have usable : s.findUsable? r.id false = some r := by
    rw [findUsable?, unique.find?_of_mem stored, Option.filter_some, active]
    rfl
  unfold resolve
  rw [if_neg given, get?, usable]
  cases h : r.template <;> simp only [h] <;> rfl

/-- A template is resolved by the first choice that applies, if all rows can be read. -/
theorem exists_chosen_resolve (unique : s.UniqueIds)
    (converts : ∀ r ∈ s.rows, Outcome.Succeeds r.template) (id scope : String) :
    ∃ choice, s.Chosen id (filledText scope Settings.defaultScope) choice ∧
      s.resolve id scope = .ok (served choice) := by
  by_cases named : ∃ r ∈ s.rows, r.IsNamed id
  · obtain ⟨r, stored, named⟩ := named
    obtain ⟨t, read⟩ := converts r stored
    refine ⟨some r, .named r stored named, ?_⟩
    rw [resolve_of_named unique stored named, served, read]
  · have unnamed : ∀ x ∈ s.rows, ¬ x.IsNamed id := fun x hx h => named ⟨x, hx, h⟩
    refine ⟨_, chosen_defaultRow? unnamed _, ?_⟩
    rw [resolve_of_unnamed unnamed, defaultTemplate_eq]

/-- Edits keep the ids of rows apart, and one default for each scope. -/
theorem edits_single (clock : Moment) (issued : Nat) (es : List StoreEdit) :
    (edits { clock, issued } es).UniqueIds ∧ (edits { clock, issued } es).SingleDefaults := by
  refine edits_invariant (P := fun s => s.UniqueIds ∧ s.SingleDefaults) ?_ ?_ es
  · exact fun _ _ h hc => ⟨h.1.change hc, h.2.change h.1 hc⟩
  · exact ⟨List.nodup_nil, List.Pairwise.nil, fun _ hr => nomatch hr⟩

/-- In every store that a run of actions has led to and whose rows can all be read, a template is
resolved by the first choice that applies, an active row or the built-in template. After a run of
edits the choice is the only one that can be made. And whatever a store holds, there is a default of
every scope, which is chosen in the same way, with the built-in template in the place of a row that
cannot be read. -/
theorem run_resolve (clock : Moment) (issued : Nat) :
    (∀ acts, (∀ r ∈ (run { clock, issued } acts).rows, Outcome.Succeeds r.template) → ∀ id scope,
      ∃ choice,
        (run { clock, issued } acts).Chosen id (filledText scope Settings.defaultScope) choice ∧
        (run { clock, issued } acts).resolve id scope = .ok (served choice) ∧
        ∀ r, choice = some r → r.isActive = true ∧ r.template = .ok (served choice)) ∧
    (∀ es id scope c c', (edits { clock, issued } es).Chosen id scope c →
      (edits { clock, issued } es).Chosen id scope c' → c = c') ∧
    ∀ (s : Store) (scope : String), ∃ choice,
      s.Chosen "" (filledText scope Settings.defaultScope) choice ∧
      s.defaultTemplate scope = served choice := by
  refine ⟨fun acts converts id scope => ?_, fun es id scope c c' h h' => ?_, fun s scope => ?_⟩
  · obtain ⟨unique, -⟩ :=
      run_marks (s := { clock, issued }) List.nodup_nil (fun r hr => nomatch hr) acts
    obtain ⟨choice, chosen, resolved⟩ := exists_chosen_resolve unique converts id scope
    refine ⟨choice, chosen, resolved, ?_⟩
    rintro r rfl
    exact ⟨chosen.isActive, TemplateRow.template_served (converts r chosen.mem)⟩
  · obtain ⟨unique, single⟩ := edits_single clock issued es
    exact h.unique unique single h'
  · exact ⟨_, chosen_defaultRow? (fun r _ => r.not_isNamed_empty) _, defaultTemplate_eq s scope⟩

/-- Three templates, of which the first is the default of its scope and the second is taken out of
use. -/
def threeOffers : List StoreEdit :=
  [.create { body := { name := "Offer" }, isDefault := true }, .wait 60,
    .create { body := { name := "Letter" } },
    .create { body := { name := "Bill", scope := "invoice" } },
    .deactivate "tpl_2"]

/-- One who asks for the template that is out of use gets the default, the only choice; an active
template is given to those who ask for it in any scope. -/
theorem threeOffers_resolve :
    (∀ r ∈ (run {} (threeOffers.map .edit)).rows, Outcome.Succeeds r.template) ∧
    (∃ choice, (run {} (threeOffers.map .edit)).Chosen "tpl_3" "quotation" choice ∧
      (run {} (threeOffers.map .edit)).resolve "tpl_3" "" = .ok (served choice) ∧
      ∀ r, choice = some r → r.isActive = true ∧ r.template = .ok (served choice)) ∧
    ∃ r, r.id = "tpl_1" ∧ (edits {} threeOffers).Chosen "tpl_2" "quotation" (some r) ∧
      ∀ c, (edits {} threeOffers).Chosen "tpl_2" "quotation" c → c = some r := by
  have converts : ∀ r ∈ (run {} (threeOffers.map .edit)).rows, Outcome.Succeeds r.template := by
    decide +kernel
  obtain ⟨always, unique, -⟩ := run_resolve storeEpoch 0
  have first : ∃ r ∈ (edits {} threeOffers).rows, r.id = "tpl_1" ∧ r.IsDefaultOf "quotation" ∧
      ∀ x ∈ (edits {} threeOffers).rows, x.IsDefaultOf "quotation" → ¬ x.LaterThan r := by
    decide +kernel
  obtain ⟨r, stored, named, marked, latest⟩ := first
  have unnamed : ∀ x ∈ (edits {} threeOffers).rows, ¬ x.IsNamed "tpl_2" := by decide +kernel
  have chosen : (edits {} threeOffers).Chosen "tpl_2" "quotation" (some r) :=
    .marked r unnamed stored marked latest
  exact ⟨converts, always _ converts "tpl_3" "", r, named, chosen,
    fun c hc => unique threeOffers "tpl_2" "quotation" c (some r) hc chosen⟩

/-- A file with a template whose id is the empty text. -/
def namelessFile : TextFile where
  path := "a.yaml"
  text := "name: Offer\nid: \x27\x27\nscope: invoice\n"

/-- The template of the empty id is in use and can be read, but no one who asks for it gets it. -/
theorem nameless_unresolved :
    (∀ r ∈ (run {} [.sync [namelessFile]]).rows, Outcome.Succeeds r.template) ∧
    ∃ r ∈ (run {} [.sync [namelessFile]]).rows, r.isActive = true ∧ r.id = "" ∧
      (run {} [.sync [namelessFile]]).resolve "" "" ≠ r.template := by
  have converts : ∀ r ∈ (run {} [.sync [namelessFile]]).rows, Outcome.Succeeds r.template := by
    decide +kernel
  have stored : ∃ r ∈ (run {} [.sync [namelessFile]]).rows, r.isActive = true ∧ r.id = "" := by
    decide +kernel
  have vacant : (run {} [.sync [namelessFile]]).defaultRow? Settings.defaultScope = none := by
    decide +kernel
  have builtIn : fallbackTemplate.id = some "default" := by decide +kernel
  obtain ⟨r, hr, active, hid⟩ := stored
  refine ⟨converts, r, hr, active, hid, fun given => ?_⟩
  rw [resolve_of_unnamed fun r _ => r.not_isNamed_empty, defaultTemplate_eq] at given
  have empty : filledText "" Settings.defaultScope = Settings.defaultScope := rfl
  rw [empty, vacant, served] at given
  obtain ⟨es, -, shown⟩ := TemplateRow.template_eq_ok.mp given.symm
  -- the row has the empty id, and the built-in template another one
  have same : some r.id = fallbackTemplate.id := congrArg Template.id shown
  rw [hid, builtIn] at same
  exact absurd same (by decide)

end Store

end QuotationPress
