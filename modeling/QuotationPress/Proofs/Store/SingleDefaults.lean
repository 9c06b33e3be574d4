import QuotationPress.Proofs.Store.Change

/-!
# One default for each scope

`Store.SingleDefaults` says that no two rows are defaults of one scope and that no inactive row is a
default; with unique ids it is kept by every change (`SingleDefaults.change`), hence by every run of
edits. `edits_defaults` is the statement for runs that start in an empty store.
-/

namespace QuotationPress.Store

variable {s s' : Store}

/-- No two rows are defaults of one scope, and only active rows are defaults. -/
structure SingleDefaults (s : Store) : Prop where
  apart : s.rows.Pairwise fun a b => a.isDefault = true → b.isDefault = true → a.scope ≠ b.scope
  active : ∀ r ∈ s.rows, r.isDefault = true → r.isActive = true

instance (s : Store) : Decidable s.SingleDefaults :=
  decidable_of_iff (s.rows.Pairwise (fun a b => a.isDefault = true → b.isDefault = true →
    a.scope ≠ b.scope) ∧ ∀ r ∈ s.rows, r.isDefault = true → r.isActive = true)
    ⟨fun h => ⟨h.1, h.2⟩, fun h => ⟨h.apart, h.active⟩⟩

/-- The rows that are marked as default of a scope. -/
def defaultsOf (s : Store) (scope : String) : List TemplateRow :=
  s.rows.filter fun r => r.scope = scope && r.isDefault

theorem mem_defaultsOf {scope : String} {r : TemplateRow} :
    r ∈ s.defaultsOf scope ↔ r ∈ s.rows ∧ r.scope = scope ∧ r.isDefault = true := by
  simp [defaultsOf]

/-- A scope has one default row at most. -/
theorem SingleDefaults.length_defaultsOf_le (h : s.SingleDefaults) (scope : String) :
    (s.defaultsOf scope).length ≤ 1 := by
  have hpair : (s.defaultsOf scope).Pairwise fun a b =>
      a.isDefault = true → b.isDefault = true → a.scope ≠ b.scope := h.apart.filter _
  have hmem : ∀ r ∈ s.defaultsOf scope, r.scope = scope ∧ r.isDefault = true :=
    fun r hr => (mem_defaultsOf.mp hr).2
  match hl : s.defaultsOf scope with
  | [] => exact Nat.zero_le 1
  | [_] => exact Nat.le_refl 1
  | a :: b :: rest =>
    rw [hl] at hpair hmem
    obtain ⟨ha, hda⟩ := hmem a (by simp)
    obtain ⟨hb, hdb⟩ := hmem b (by simp)
    have hab := List.rel_of_pairwise_cons hpair (List.mem_cons_self ..) hda hdb
    exact absurd (ha.trans hb.symm) hab

/-! ### Changes keep ids apart -/

theorem UniqueIds.clearDefaults (h : s.UniqueIds) (scope : String) (keep : Option String) :
    (s.clearDefaults scope keep).UniqueIds := by
  unfold UniqueIds
  rw [map_id_clearDefaults]
  exact h

theorem UniqueIds.vacated (h : s.UniqueIds) (r : TemplateRow) : (s.vacated r).UniqueIds := by
  unfold Store.vacated
  split
  · exact h.clearDefaults ..
  · exact h

/-- A row under a free id keeps the ids apart. -/
theorem UniqueIds.append (h : s.UniqueIds) {r : TemplateRow} (fresh : s.find? r.id = none)
    (rows : s'.rows = s.rows ++ [r]) : s'.UniqueIds := by
  unfold UniqueIds
  rw [rows, List.map_append, List.map_singleton, List.nodup_append]
  refine ⟨h, List.nodup_singleton _, ?_⟩
  intro a ha b hb
  obtain ⟨x, hx, rfl⟩ := List.mem_map.mp ha
  rw [List.mem_singleton.mp hb]
  exact find?_eq_none_iff.mp fresh x hx

/-- Every change keeps the ids of rows apart. -/
theorem UniqueIds.change (h : s.UniqueIds) (hc : s.Change s') : s'.UniqueIds := by
  -- the rows keep their ids in every case, and the one that is added has a free one
  cases hc with
  | nothing rows =>
    unfold UniqueIds
    rw [rows]
    exact h
  | added r fresh active rows => exact (h.vacated r).append (find?_vacated_eq_none.mpr fresh) rows
  | revised r content isDefault isActive found marks rows =>
    unfold UniqueIds
    rw [rows, writeRevision_rows, List.map_map]
    have hid : TemplateRow.id ∘ s.afterRevision r content isDefault isActive = TemplateRow.id :=
      funext (afterRevision_id s r content isDefault isActive)
    rw [hid]
    exact h
  | kept r found isDefault rows =>
    unfold UniqueIds
    rw [rows]
    exact h.clearDefaults r.scope (some r.id)

/-! ### Changes keep one default -/

/-- Taking marks away leaves no inactive default. -/
theorem active_clearDefaults (h : ∀ r ∈ s.rows, r.isDefault = true → r.isActive = true)
    (scope : String) (keep : Option String) :
    ∀ r ∈ (s.clearDefaults scope keep).rows, r.isDefault = true → r.isActive = true := by
  intro r hr hd
  rw [clearDefaults_rows] at hr
  obtain ⟨x, hx, rfl⟩ := List.mem_map.mp hr
  rw [cleared_isActive]
  exact h x hx (cleared_isDefault.mp hd).1

/-- Taking marks away leaves no two defaults where there were none. -/
theorem SingleDefaults.clearDefaults (h : s.SingleDefaults) (scope : String)
    (keep : Option String) :
    (s.clearDefaults scope keep).SingleDefaults where
  apart := by
    rw [clearDefaults_rows, List.pairwise_map]
    refine h.apart.imp fun {a b} hab hda hdb => ?_
    rw [cleared_toStoredContent, cleared_toStoredContent]
    exact hab (cleared_isDefault.mp hda).1 (cleared_isDefault.mp hdb).1
  active := active_clearDefaults h.active scope keep

/-- A store that others have made room in has no two defaults where it had none. -/
theorem SingleDefaults.vacated (h : s.SingleDefaults) (r : TemplateRow) :
    (s.vacated r).SingleDefaults := by
  unfold Store.vacated
  split
  · exact h.clearDefaults ..
  · exact h

/-- A row may be added as a default if nobody else is the default of its scope. -/
theorem SingleDefaults.append (h : s.SingleDefaults) {r : TemplateRow} (active : r.isActive = true)
    (vacant : r.isDefault = true → ∀ x ∈ s.rows, x.isDefault = true → x.scope ≠ r.scope)
    (rows : s'.rows = s.rows ++ [r]) : s'.SingleDefaults where
  apart := by
    rw [rows, List.pairwise_append]
    refine ⟨h.apart, List.pairwise_singleton _ _, ?_⟩
    intro x hx y hy hdx hdy
    rw [List.mem_singleton.mp hy] at hdy ⊢
    exact vacant hdy x hx hdx
  active := by
    intro x hx hd
    rw [rows, List.mem_append] at hx
    rcases hx with hx | hx
    · exact h.active x hx hd
    · rw [List.mem_singleton.mp hx]
      exact active

/-- A default row takes the mark from the other rows of its scope. -/
theorem scope_ne_of_afterRevision {r x : TemplateRow} {content : StoredContent} {isActive : Bool}
    (hx : x.id ≠ r.id) (hd : (s.afterRevision r content true isActive x).isDefault = true) :
    (s.afterRevision r content true isActive x).scope ≠ content.scope := by
  unfold afterRevision at hd ⊢
  rw [if_neg hx, if_pos rfl] at hd ⊢
  rw [cleared_toStoredContent]
  intro hscope
  have hkeep := (cleared_isDefault.mp hd).2 hscope
  exact hx (Option.some.inj hkeep)

/-- Another row is a default after a revision only if it was one before, in the same scope. -/
theorem default_of_afterRevision {r x : TemplateRow} {content : StoredContent}
    {isDefault isActive : Bool} (hx : x.id ≠ r.id)
    (hd : (s.afterRevision r content isDefault isActive x).isDefault = true) :
    x.isDefault = true ∧ (s.afterRevision r content isDefault isActive x).scope = x.scope ∧
      (s.afterRevision r content isDefault isActive x).isActive = x.isActive := by
  rcases afterRevision_of_ne s r content isDefault isActive hx with h | h
  · rw [h] at hd ⊢
    exact ⟨hd, rfl, rfl⟩
  · rw [h] at hd ⊢
    rw [cleared_toStoredContent, cleared_isActive]
    exact ⟨(cleared_isDefault.mp hd).1, rfl, rfl⟩

/-- A revision leaves no inactive default if it is none itself. -/
theorem active_writeRevision (h : ∀ r ∈ s.rows, r.isDefault = true → r.isActive = true)
    (r : TemplateRow) (content : StoredContent) {isDefault isActive : Bool}
    (marks : isDefault = true → isActive = true) :
    ∀ x ∈ (s.writeRevision r content isDefault isActive).2.rows, x.isDefault = true →
      x.isActive = true := by
  intro x hx hd
  rw [writeRevision_rows] at hx
  obtain ⟨y, hy, rfl⟩ := List.mem_map.mp hx
  by_cases hyr : y.id = r.id
  · rw [afterRevision_of_eq _ _ _ _ _ hyr] at hd ⊢
    exact marks hd
  · obtain ⟨hk, -, hactive⟩ := default_of_afterRevision hyr hd
    rw [hactive]
    exact h y hy hk

/-- A revision keeps one default for each scope: if it is one, the others of its scope give up the
mark. -/
theorem SingleDefaults.writeRevision (h : s.SingleDefaults) (hids : s.UniqueIds) (r : TemplateRow)
    (content : StoredContent) {isDefault isActive : Bool}
    (marks : isDefault = true → isActive = true) :
    (s.writeRevision r content isDefault isActive).2.SingleDefaults where
  apart := by
    rw [writeRevision_rows, List.pairwise_map]
    refine (hids.pairwise.and h.apart).imp fun {a b} hab hda hdb => ?_
    obtain ⟨hne, hab⟩ := hab
    -- at most one of the two is the row that is revised
    by_cases ha : a.id = r.id
    · have hb : b.id ≠ r.id := fun hb => hne (ha.trans hb.symm)
      rw [afterRevision_of_eq _ _ _ _ _ ha] at hda ⊢
      have hd : isDefault = true := hda
      subst hd
      exact (scope_ne_of_afterRevision hb hdb).symm
    · by_cases hb : b.id = r.id
      · rw [afterRevision_of_eq _ _ _ _ _ hb] at hdb ⊢
        have hd : isDefault = true := hdb
        subst hd
        exact scope_ne_of_afterRevision ha hda
      · obtain ⟨hka, hsa, -⟩ := default_of_afterRevision ha hda
        obtain ⟨hkb, hsb, -⟩ := default_of_afterRevision hb hdb
        rw [hsa, hsb]
        exact hab hka hkb
  active := active_writeRevision h.active r content marks

theorem SingleDefaults.congr (h : s.SingleDefaults) (rows : s'.rows = s.rows) :
    s'.SingleDefaults where
  apart := by
    rw [rows]
    exact h.apart
  active := by
    rw [rows]
    exact h.active

/-- Every change keeps one default for each scope. -/
theorem SingleDefaults.change (h : s.SingleDefaults) (hids : s.UniqueIds) (hc : s.Change s') :
    s'.SingleDefaults := by
  cases hc with
  | nothing rows => exact h.congr rows
  | added r fresh active rows =>
    exact (h.vacated r).append active (fun hr _ => scope_ne_of_mem_vacated hr) rows
  | revised r content isDefault isActive found marks rows =>
    exact (h.writeRevision hids r content marks).congr rows
  | kept r found isDefault rows => exact (h.clearDefaults r.scope (some r.id)).congr rows

/-- No change leaves an inactive default, however many defaults a scope has. -/
theorem active_change (h : ∀ r ∈ s.rows, r.isDefault = true → r.isActive = true)
    (hc : s.Change s') :
    ∀ r ∈ s'.rows, r.isDefault = true → r.isActive = true := by
  cases hc with
  | nothing rows =>
    rw [rows]
    exact h
  | added r fresh active rows =>
    rw [rows, List.forall_mem_append]
    refine ⟨?_, List.forall_mem_singleton.mpr fun _ => active⟩
    unfold Store.vacated
    split
    · exact active_clearDefaults h r.scope none
    · exact h
  | revised r content isDefault isActive found marks rows =>
    rw [rows]
    exact active_writeRevision h r content marks
  | kept r found isDefault rows =>
    rw [rows]
    exact active_clearDefaults h r.scope (some r.id)

/-- After every run of edits from the empty store, whatever the edits are given and whether they
succeed, each scope has at most one row that is marked as its default, and no inactive row is so
marked. -/
theorem edits_defaults (clock : Moment) (issued : Nat) (es : List StoreEdit) :
    (∀ scope, ((edits { clock, issued } es).defaultsOf scope).length ≤ 1) ∧
      ∀ r ∈ (edits { clock, issued } es).rows, r.isActive = false → r.isDefault = false := by
  have hstart : UniqueIds { clock, issued } ∧ SingleDefaults { clock, issued } :=
    ⟨List.nodup_nil, List.Pairwise.nil, fun r hr => nomatch hr⟩
  obtain ⟨-, h⟩ := edits_invariant (P := fun s => s.UniqueIds ∧ s.SingleDefaults)
    (fun _ _ h hc => ⟨h.1.change hc, h.2.change h.1 hc⟩) hstart es
  refine ⟨h.length_defaultsOf_le, fun r hr hinactive => ?_⟩
  cases hd : r.isDefault with
  | false => rfl
  | true => rw [h.active r hr hd] at hinactive; cases hinactive

end QuotationPress.Store
