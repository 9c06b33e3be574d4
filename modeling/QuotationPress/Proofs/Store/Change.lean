import QuotationPress.Proofs.Store.Rows

/-!
# What one write can do to the rows of the store

`StoreEdit` is one edit with its arguments (or time that passes), `Store.edits` a run of them,
whether they succeed or not. `Store.change_apply` sorts the outcomes of all edits into the four
cases of `Store.Change`: nothing happens, a row is added, one row is revised, or the default mark is
only taken from others. An invariant is shown case by case of `Change`, and `Store.edits_invariant`
carries it through a run.
-/

namespace QuotationPress

/-- One edit of the store, or some seconds that pass. -/
inductive StoreEdit where
  | create (draft : TemplateDraft)
  | replace (id : String) (replacement : TemplateReplacement)
  | patch (id : String) (patch : TemplatePatch)
  | setDefault (id : String)
  | deactivate (id : String)
  | duplicate (id : String) (name : Option String)
  | wait (seconds : Nat)

/-- The store after an edit, be it successful or not. -/
def StoreEdit.apply : StoreEdit → Store → Store
  | create d, s => (s.create d).2
  | replace id d, s => (s.replace id d).2
  | patch id p, s => (s.patch id p).2
  | setDefault id, s => (s.setDefault id).2
  | deactivate id, s => (s.deactivate id).2
  | duplicate id name, s => (s.duplicate id name).2
  | wait n, s => s.tick n

namespace Store

/-- The store after a run of edits. -/
def edits (s : Store) (es : List StoreEdit) : Store := es.foldl (fun s e => e.apply s) s

/-- What one edit makes of the rows. -/
inductive Change (s s' : Store) : Prop where
  | nothing (rows : s'.rows = s.rows)
  /-- A row in its first version comes behind the others, which give up the mark it carries. -/
  | added (r : TemplateRow) (fresh : s.find? r.id = none) (active : r.isActive = true)
      (rows : s'.rows = (s.vacated r).rows ++ [r])
  /-- A stored row is revised, and others give up the mark it carries. -/
  | revised (r : TemplateRow) (content : StoredContent) (isDefault isActive : Bool)
      (found : s.find? r.id = some r) (marks : isDefault = true → isActive = true)
      (rows : s'.rows = (s.writeRevision r content isDefault isActive).2.rows)
  /-- A default row stays as it is, and others give up the mark. -/
  | kept (r : TemplateRow) (found : s.find? r.id = some r) (isDefault : r.isDefault = true)
      (rows : s'.rows = (s.clearDefaults r.scope (some r.id)).rows)

/-! ### The rows after each edit -/

/-- A row that is added counts as added, or nothing happens because its id is taken. -/
theorem change_added (s : Store) (issued : Nat) (r : TemplateRow) (h : r.isActive = true) :
    s.Change ({ s with issued } |>.added r).2 := by
  have hrows : (vacated { s with issued } r).rows = (s.vacated r).rows := by
    unfold vacated
    split <;> rfl
  have hinsert : insertNew { s with issued } r = (vacated { s with issued } r).insert r := rfl
  unfold added
  rw [hinsert]
  unfold insert
  rw [find?_congr hrows]
  by_cases hr : s.find? r.id = none
  · rw [find?_vacated_eq_none.mpr hr]
    exact .added r hr h (by simp only [hrows, Option.isSome_none, Bool.false_eq_true, ite_false])
  · have htaken : ((s.vacated r).find? r.id).isSome = true :=
      Option.isSome_iff_ne_none.mpr (mt find?_vacated_eq_none.mp hr)
    rw [if_pos htaken]
    exact .nothing rfl

/-- A template that is created is a row added; one that cannot be written changes nothing. -/
theorem change_create (s : Store) (d : TemplateDraft) : s.Change (s.create d).2 := by
  unfold create issueId
  dsimp only
  split
  · exact change_added s _ _ rfl
  · exact .nothing rfl

/-- A replacement revises the row that it finds. -/
theorem change_replace (s : Store) (id : String) (d : TemplateReplacement) :
    s.Change (s.replace id d).2 := by
  unfold replace
  cases hr : s.find? id with
  | none => exact .nothing rfl
  | some r =>
    have hfound : s.find? r.id = some r := by rw [id_of_find? hr, hr]
    cases d.body.stored with
    | error f => exact .nothing rfl
    | ok content =>
      exact .revised r content (d.isDefault && d.isActive) d.isActive hfound (by simp) rfl

/-- With nobody in between, the second look at the version finds what the first one found. -/
theorem patch_of_find? {s : Store} {id : String} {r : TemplateRow} (h : s.find? id = some r)
    (p : TemplatePatch) : s.patch id p =
      if r.version ≠ p.expectedVersion then (.ok (.conflict p.expectedVersion r.version), s)
      else s.patchRow r p := by
  unfold patch patchAmid
  simp only [h]
  split <;> rfl

/-- A patch revises the row that it finds in the expected version, and else does nothing. -/
theorem change_patch (s : Store) (id : String) (p : TemplatePatch) : s.Change (s.patch id p).2 := by
  cases hr : s.find? id with
  | none =>
    unfold patch patchAmid
    rw [hr]
    exact .nothing rfl
  | some r =>
    have hfound : s.find? r.id = some r := by rw [id_of_find? hr, hr]
    rw [patch_of_find? hr]
    split
    · exact .nothing rfl
    · unfold patchRow
      cases p.applied r.toStoredContent with
      | error f => exact .nothing rfl
      | ok content =>
        exact .revised r content (p.isDefault.getD r.isDefault && p.isActive.getD r.isActive)
          (p.isActive.getD r.isActive) hfound (by simp) rfl

/-- A usable row that is looked up without the inactive ones is stored and active. -/
theorem findUsable?_eq_some {s : Store} {id : String} {r : TemplateRow}
    (h : s.findUsable? id false = some r) : s.find? r.id = some r ∧ r.isActive = true := by
  obtain ⟨hfind, hactive⟩ := Option.filter_eq_some_iff.mp h
  exact ⟨by rw [id_of_find? hfind, hfind], by simpa using hactive⟩

/-- Making a row the default revises it, unless it is the default already. -/
theorem change_setDefault (s : Store) (id : String) : s.Change (s.setDefault id).2 := by
  unfold setDefault
  split
  · exact .nothing rfl
  · next r hr =>
    obtain ⟨hfound, hactive⟩ := findUsable?_eq_some hr
    split
    · next hd => exact .kept r hfound hd rfl
    · exact .revised r _ _ _ hfound (fun _ => hactive) rfl

theorem change_deactivate (s : Store) (id : String) : s.Change (s.deactivate id).2 := by
  unfold deactivate
  split
  · exact .nothing rfl
  · next r hr => exact .revised r _ _ _ (findUsable?_eq_some hr).1 (by simp) rfl

/-- A copy is a row added under a new id. -/
theorem change_duplicate (s : Store) (id : String) (name : Option String) :
    s.Change (s.duplicate id name).2 := by
  unfold duplicate issueId
  split
  · exact .nothing rfl
  · next r hr =>
    dsimp only
    -- the answer is looked at before the rows, so that both cases of it end in the same store
    have h := change_added s (s.issued + 1) (newRow { s with issued := s.issued + 1 }
      ("tpl_" ++ String.ofList (numeral (s.issued + 1))) (copyContent r.toStoredContent name) false
      r.createdBy) rfl
    split
    · next heq => rw [heq] at h; exact h
    · next heq => rw [heq] at h; exact h

/-- Every edit is one of the four changes. -/
theorem change_apply (s : Store) (e : StoreEdit) : s.Change (e.apply s) := by
  cases e with
  | create d => exact change_create s d
  | replace id d => exact change_replace s id d
  | patch id p => exact change_patch s id p
  | setDefault id => exact change_setDefault s id
  | deactivate id => exact change_deactivate s id
  | duplicate id name => exact change_duplicate s id name
  | wait n => exact .nothing rfl

/-- What every change keeps holds after every run of edits. -/
theorem edits_invariant {P : Store → Prop} (step : ∀ s s', P s → s.Change s' → P s') {s : Store}
    (h : P s) (es : List StoreEdit) : P (s.edits es) := by
  induction es generalizing s with
  | nil => exact h
  | cons e rest ih => exact ih (step s _ h (change_apply s e))

end Store

end QuotationPress
