import QuotationPress.Proofs.Number.Numeral
import QuotationPress.Proofs.Store.Preview
import QuotationPress.Proofs.Store.Versions

/-!
# The ids that a store issues

`Store.IssuedIds`: of the ids that the store makes, no row bears one that is still to be issued, so
that the next one is free (`IssuedIds.fresh`). Edits keep to this; files do unless they define a
template under such an id (`issuedIds_run`).
-/

namespace QuotationPress

namespace Store

variable {s s' : Store} {r : TemplateRow}

/-- The id that is the `n`-th to be issued. -/
def issuedId (n : Nat) : String := "tpl_" ++ String.ofList (numeral n)

theorem issueId_fst (s : Store) : s.issueId.1 = issuedId (s.issued + 1) := rfl

/-- No id is issued twice. -/
theorem issuedId_injective : Function.Injective issuedId := by
  intro m n same
  have digits : numeral m = numeral n := by
    have chars := congrArg String.toList same
    simpa [issuedId] using chars
  rw [← numeralValue_numeral m, digits, numeralValue_numeral]

/-- No row bears an id that is still to be issued. -/
def IssuedIds (s : Store) : Prop := ∀ r ∈ s.rows, ∀ n, r.id = issuedId n → n ≤ s.issued

/-- The id that is issued next is free. -/
theorem IssuedIds.fresh (h : s.IssuedIds) : s.find? s.issueId.1 = none := by
  rw [find?_eq_none_iff, issueId_fst]
  intro r hr same
  exact absurd (h r hr _ same) (Nat.not_succ_le_self _)

/-! ### Edits -/

/-- The same rows, up to all but their ids, and the same count of issued ids. -/
structure SameIds (s s' : Store) : Prop where
  ids : s'.rows.map TemplateRow.id = s.rows.map TemplateRow.id
  issued : s'.issued = s.issued

theorem SameIds.refl (s : Store) : s.SameIds s := ⟨rfl, rfl⟩

/-- Only the ids matter, and how many of them have been issued. -/
theorem IssuedIds.of_sameIds (h : s.IssuedIds) (same : s.SameIds s') : s'.IssuedIds := by
  intro r hr n hn
  have mem : r.id ∈ s.rows.map TemplateRow.id := same.ids ▸ List.mem_map_of_mem hr
  obtain ⟨x, hx, hid⟩ := List.mem_map.mp mem
  rw [same.issued]
  exact h x hx n (hid.trans hn)

theorem sameIds_clearDefaults (s : Store) (scope : String) (keep : Option String) :
    s.SameIds (s.clearDefaults scope keep) := ⟨map_id_clearDefaults s scope keep, rfl⟩

theorem sameIds_vacated (s : Store) (r : TemplateRow) : s.SameIds (s.vacated r) := by
  unfold vacated
  split
  · exact sameIds_clearDefaults s _ _
  · exact .refl s

theorem sameIds_writeRevision (s : Store) (r : TemplateRow) (content : StoredContent)
    (isDefault isActive : Bool) :
    s.SameIds (s.writeRevision r content isDefault isActive).2 := by
  constructor
  · rw [writeRevision_rows, List.map_map]
    exact List.map_congr_left fun x _ => afterRevision_id s r content isDefault isActive x
  · cases isDefault <;> rfl

theorem IssuedIds.issue (h : s.IssuedIds) : s.issueId.2.IssuedIds := fun r hr n hn =>
  (h r hr n hn).trans (Nat.le_succ _)

/-- A row may come in under an id that has been issued. -/
theorem IssuedIds.added (h : s.IssuedIds) (issued : ∀ n, r.id = issuedId n → n ≤ s.issued) :
    (s.added r).2.IssuedIds := by
  by_cases fresh : s.find? r.id = none
  · rw [added_of_fresh fresh]
    have vacated := sameIds_vacated s r
    intro x hx
    obtain hx | hx := List.mem_append.mp hx
    · exact (h.of_sameIds vacated) x hx
    · rw [List.mem_singleton.mp hx]
      exact fun n hn => (issued n hn).trans_eq vacated.issued.symm
  · rw [added_of_taken fresh]
    exact h

/-- A row under the id that has been issued last. -/
theorem IssuedIds.newRow (h : s.IssuedIds) (content : StoredContent) (isDefault : Bool)
    (createdBy : Option String) :
    (s.issueId.2.added (s.issueId.2.newRow s.issueId.1 content isDefault createdBy)).2.IssuedIds :=
  h.issue.added fun _ hn => (issuedId_injective hn).ge

/-- Every edit keeps the ids to come free: it issues the id of a new row first, and changes no
id. -/
theorem IssuedIds.edit (h : s.IssuedIds) (e : StoreEdit) : (e.apply s).IssuedIds := by
  -- one case for each edit; in each of them the rows keep their ids or one row comes in under the
  -- id issued last
  cases e with
  | create d =>
    simp only [StoreEdit.apply, create]
    split
    · exact h.newRow _ _ _
    · exact h.issue
  | replace id d =>
    simp only [StoreEdit.apply, replace]
    split
    · exact h
    · split
      · exact h
      · exact h.of_sameIds (sameIds_writeRevision ..)
  | patch id p =>
    cases found : s.find? id with
    | none =>
      simp only [StoreEdit.apply, patch, patchAmid, found]
      exact h
    | some r =>
      rw [StoreEdit.apply, patch_of_find? found]
      split
      · exact h
      · unfold patchRow
        dsimp only
        split
        · exact h
        · exact h.of_sameIds (sameIds_writeRevision ..)
  | setDefault id =>
    simp only [StoreEdit.apply, setDefault]
    split
    · exact h
    · split
      · exact h.of_sameIds (sameIds_clearDefaults ..)
      · exact h.of_sameIds (sameIds_writeRevision ..)
  | deactivate id =>
    simp only [StoreEdit.apply, deactivate]
    split
    · exact h
    · exact h.of_sameIds (sameIds_writeRevision ..)
  | duplicate id name =>
    cases found : s.findUsable? id false with
    | none =>
      simp only [StoreEdit.apply, duplicate, found]
      exact h
    | some r =>
      rw [StoreEdit.apply, duplicate_of_findUsable? found]
      exact h.newRow _ _ _
  | wait n => exact h

/-! ### Files -/

/-- A file defines no template under an id of the kind that stores issue. -/
def LeavesIds (files : List TextFile) : Prop :=
  ∀ ds, Definition.ofFiles files = .ok ds → ∀ d ∈ ds, ∀ n, d.id ≠ issuedId n

/-- A definition under an id of another kind leaves the ids to come free. -/
theorem IssuedIds.syncOne (h : s.IssuedIds) {d : Definition} (foreign : ∀ n, d.id ≠ issuedId n)
    (report : SyncReport) : (Store.syncOne d report s).2.IssuedIds := by
  unfold Store.syncOne
  split
  · split
    · exact h
    · refine h.of_sameIds ⟨?_, rfl⟩
      simp only [updateContent, update, modify, List.map_map]
      refine List.map_congr_left fun x _ => ?_
      simp only [Function.comp]
      split <;> rfl
  · have vacated := h.of_sameIds (sameIds_vacated s (s.rowOfDefinition d))
    intro x hx
    obtain hx | hx := List.mem_append.mp hx
    · exact vacated x hx
    · rw [List.mem_singleton.mp hx]
      exact fun n hn => absurd hn (foreign n)

theorem IssuedIds.syncFrom (h : s.IssuedIds) {ds : List Definition}
    (foreign : ∀ d ∈ ds, ∀ n, d.id ≠ issuedId n) (report : SyncReport) :
    (Store.syncFrom ds report s).2.IssuedIds := by
  induction ds generalizing s report with
  | nil => exact h
  | cons d rest ih =>
    rw [List.forall_mem_cons] at foreign
    exact ih (h.syncOne foreign.1 report) foreign.2 _

/-- Files that leave the ids of this kind alone leave the ids to come free. -/
theorem IssuedIds.sync (h : s.IssuedIds) {files : List TextFile} (foreign : LeavesIds files) :
    (s.sync files).2.IssuedIds := by
  unfold Store.sync
  split
  · next ds read => exact h.syncFrom (foreign ds read) {}
  · exact h

/-- In a store that a run of actions has led to, the next id is free unless a file has taken it. -/
theorem issuedIds_run (h : s.IssuedIds) {acts : List StoreAction}
    (foreign : ∀ files, .sync files ∈ acts → LeavesIds files) : (s.run acts).IssuedIds := by
  -- along the actions, from whatever store an action leaves behind
  induction acts generalizing s with
  | nil => exact h
  | cons a rest ih =>
    rw [run, List.foldl_cons]
    have later : ∀ files, .sync files ∈ rest → LeavesIds files := fun files mem =>
      foreign files (List.mem_cons_of_mem a mem)
    cases a with
    | edit e => exact ih (h.edit e) later
    | sync files => exact ih (h.sync (foreign files List.mem_cons_self)) later

end Store

end QuotationPress
