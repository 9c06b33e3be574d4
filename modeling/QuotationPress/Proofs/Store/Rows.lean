import Mathlib.Data.List.Nodup
import QuotationPress.Store.Edit

/-!
# Rows of the template store, looked up and changed

`Store.cleared` is what `clearDefaults` makes of one row and `Store.revision` what `writeRevision`
makes of the row it is about; `clearDefaults_rows` and `writeRevision_rows` write both operations as
one map over the rows, and `find?_map_rows` carries look-ups through such a map. In a store with
unique ids a row is known by its id.
-/

namespace QuotationPress.Store

variable {s : Store} {id : String} {r : TemplateRow}

/-! ### Look-ups -/

theorem id_of_find? (h : s.find? id = some r) : r.id = id := by
  simpa using List.find?_some h

theorem mem_of_find? (h : s.find? id = some r) : r ∈ s.rows := List.mem_of_find?_eq_some h

theorem find?_eq_none_iff : s.find? id = none ↔ ∀ r ∈ s.rows, r.id ≠ id := by
  unfold find?
  simp

/-- No two rows bear one id. -/
def UniqueIds (s : Store) : Prop := (s.rows.map TemplateRow.id).Nodup

instance (s : Store) : Decidable s.UniqueIds := inferInstanceAs (Decidable (List.Nodup _))

theorem UniqueIds.pairwise (h : s.UniqueIds) : s.rows.Pairwise fun a b => a.id ≠ b.id :=
  List.pairwise_map.mp h

theorem UniqueIds.eq_of_id_eq (h : s.UniqueIds) {a b : TemplateRow} (ha : a ∈ s.rows)
    (hb : b ∈ s.rows) (hab : a.id = b.id) : a = b :=
  List.inj_on_of_nodup_map h ha hb hab

theorem UniqueIds.find?_of_mem (h : s.UniqueIds) (hr : r ∈ s.rows) : s.find? r.id = some r := by
  cases found : s.find? r.id with
  | none => exact absurd rfl (find?_eq_none_iff.mp found r hr)
  | some x => rw [h.eq_of_id_eq (mem_of_find? found) hr (id_of_find? found)]

/-- A map that keeps the ids carries every look-up along. -/
theorem find?_map_rows {rows : List TemplateRow} {g : TemplateRow → TemplateRow}
    (hg : ∀ r, (g r).id = r.id) :
    (rows.map g).find? (·.id = id) = (rows.find? (·.id = id)).map g := by
  rw [List.find?_map]
  congr 2
  funext r
  simp [hg r]

theorem find?_congr {s' : Store} (h : s'.rows = s.rows) (id : String) :
    s'.find? id = s.find? id := by
  unfold find?
  rw [h]

/-- The rows with one more behind them answer for its id if none of them does. -/
theorem find?_append {s' : Store} {rows : List TemplateRow} (h : s'.rows = rows ++ [r]) :
    s'.find? id = (rows.find? (·.id = id)).or (if r.id = id then some r else none) := by
  unfold find?
  rw [h, List.find?_append]
  congr 1
  by_cases hid : r.id = id <;> simp [hid]

/-! ### The default mark taken away -/

/-- A row after the default mark of a scope has been taken from all rows but one. -/
def cleared (s : Store) (scope : String) (keep : Option String) (r : TemplateRow) : TemplateRow :=
  if losesDefault scope keep r then { r with isDefault := false, updatedAt := s.clock } else r

theorem clearDefaults_rows (s : Store) (scope : String) (keep : Option String) :
    (s.clearDefaults scope keep).rows = s.rows.map (s.cleared scope keep) := rfl

section Cleared

variable (s : Store) (scope : String) (keep : Option String) (r : TemplateRow)

@[simp] theorem cleared_toStoredContent :
    (s.cleared scope keep r).toStoredContent = r.toStoredContent := by
  unfold cleared
  split <;> rfl

@[simp] theorem cleared_id : (s.cleared scope keep r).id = r.id := by
  unfold cleared
  split <;> rfl

@[simp] theorem cleared_isActive : (s.cleared scope keep r).isActive = r.isActive := by
  unfold cleared
  split <;> rfl

end Cleared

/-- A row keeps the mark if it stands in another scope or is the one to keep. -/
theorem cleared_isDefault {scope : String} {keep : Option String} :
    (s.cleared scope keep r).isDefault = true ↔
      r.isDefault = true ∧ (r.scope = scope → some r.id = keep) := by
  unfold cleared
  split
  · next h =>
    simp only [losesDefault, Bool.and_eq_true, decide_eq_true_eq] at h
    simp only [Bool.false_eq_true, false_iff, not_and, not_forall]
    exact fun _ => ⟨h.1.1, h.2⟩
  · next h =>
    simp only [losesDefault, Bool.and_eq_true, decide_eq_true_eq, not_and, ne_eq, not_not] at h
    exact ⟨fun hd => ⟨hd, fun hs => h ⟨hs, hd⟩⟩, fun hd => hd.1⟩

theorem find?_clearDefaults (s : Store) (scope : String) (keep : Option String) (id : String) :
    (s.clearDefaults scope keep).find? id = (s.find? id).map (s.cleared scope keep) :=
  find?_map_rows (cleared_id s scope keep)

/-- The store as it is when a row comes into it: the others have given up the mark that it
carries. -/
def vacated (s : Store) (r : TemplateRow) : Store :=
  if r.isDefault then s.clearDefaults r.scope none else s

/-- Others giving up a mark makes no id free and takes none. -/
theorem find?_vacated_eq_none : (s.vacated r).find? id = none ↔ s.find? id = none := by
  unfold vacated
  split
  · rw [find?_clearDefaults, Option.map_eq_none_iff]
  · rfl

/-- A default row comes into a scope without defaults. -/
theorem scope_ne_of_mem_vacated (hr : r.isDefault = true) {x : TemplateRow}
    (hx : x ∈ (s.vacated r).rows) (hd : x.isDefault = true) : x.scope ≠ r.scope := by
  unfold vacated at hx
  rw [if_pos hr, clearDefaults_rows] at hx
  obtain ⟨y, _, rfl⟩ := List.mem_map.mp hx
  rw [cleared_toStoredContent]
  intro hscope
  exact nomatch (cleared_isDefault.mp hd).2 hscope

/-! ### One row revised -/

/-- A row with new content and new marks, one version on and dated. -/
def revision (s : Store) (r : TemplateRow) (content : StoredContent) (isDefault isActive : Bool) :
    TemplateRow :=
  { revised r content isDefault isActive with updatedAt := s.clock }

/-- What becomes of a row `x` when a revision of `r` is written. -/
def afterRevision (s : Store) (r : TemplateRow) (content : StoredContent)
    (isDefault isActive : Bool) (x : TemplateRow) : TemplateRow :=
  if x.id = r.id then s.revision r content isDefault isActive
  else if isDefault then s.cleared content.scope (some r.id) x
  else x

section Revision

variable (s : Store) (r : TemplateRow) (content : StoredContent) (isDefault isActive : Bool)

theorem afterRevision_of_eq {x : TemplateRow} (hx : x.id = r.id) :
    s.afterRevision r content isDefault isActive x = s.revision r content isDefault isActive :=
  if_pos hx

/-- Another row loses the default mark at most. -/
theorem afterRevision_of_ne {x : TemplateRow} (hx : x.id ≠ r.id) :
    s.afterRevision r content isDefault isActive x = x ∨
      s.afterRevision r content isDefault isActive x = s.cleared content.scope (some r.id) x := by
  unfold afterRevision
  rw [if_neg hx]
  split
  · exact .inr rfl
  · exact .inl rfl

@[simp] theorem afterRevision_id (x : TemplateRow) :
    (s.afterRevision r content isDefault isActive x).id = x.id := by
  unfold afterRevision
  split_ifs with h hd
  · exact h.symm
  · exact cleared_id ..
  · rfl

theorem writeRevision_fst : (s.writeRevision r content isDefault isActive).1 =
    s.revision r content isDefault isActive := by
  cases isDefault <;> rfl

/-- Writing a revision is one map over the rows: the row itself is revised, the others are cleared
if the revision is a default. -/
theorem writeRevision_rows : (s.writeRevision r content isDefault isActive).2.rows =
    s.rows.map (s.afterRevision r content isDefault isActive) := by
  cases isDefault with
  | false => rfl
  | true =>
    simp only [writeRevision, modify, ite_true, clearDefaults_rows, List.map_map]
    -- both sides map over the rows, so that they are compared row by row
    refine List.map_congr_left fun x _ => ?_
    simp only [Function.comp, cleared_id, afterRevision, ite_true]
    rfl

theorem find?_writeRevision (id : String) :
    (s.writeRevision r content isDefault isActive).2.find? id =
      (s.find? id).map (s.afterRevision r content isDefault isActive) := by
  unfold find?
  rw [writeRevision_rows]
  exact find?_map_rows (afterRevision_id s r content isDefault isActive)

end Revision

theorem find?_modify (s : Store) (id : String) {f : TemplateRow → TemplateRow}
    (hf : ∀ r, (f r).id = r.id) (other : String) :
    (s.modify id f).find? other = (s.find? other).map fun r => if r.id = id then f r else r := by
  refine find?_map_rows fun r => ?_
  split
  · exact hf r
  · rfl

end QuotationPress.Store
