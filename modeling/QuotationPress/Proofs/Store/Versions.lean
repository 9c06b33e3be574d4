import QuotationPress.Proofs.Store.Change
import QuotationPress.Store.Sync

/-!
# The version of a row identifies its content

`TemplateRow.Precedes a b` says that `b` can be a later state of the row `a`: its version is no
lower, and with the same version it is the same row up to the default mark and the date of change.
`Store.Precedes` says so of all rows of a store; every change and every sync keeps to it
(`Precedes.of_change`, `precedes_sync`), hence every run of actions (`precedes_run`). `run_versions`
adds that of the patches of a run which expect one version of a row at most one succeeds.
-/

namespace QuotationPress

/-! ### Later states of a row -/

namespace TemplateRow

/-- The same row, up to the default mark and the date of change. -/
def Agrees (a b : TemplateRow) : Prop :=
  { b with isDefault := a.isDefault, updatedAt := a.updatedAt } = a

theorem Agrees.trans {a b c : TemplateRow} (hab : a.Agrees b) (hbc : b.Agrees c) : a.Agrees c := by
  unfold Agrees at hab hbc ⊢
  rw [← hbc] at hab
  exact hab

/-- `b` can be a later state of `a`. -/
structure Precedes (a b : TemplateRow) : Prop where
  version_le : a.version ≤ b.version
  agrees : a.version = b.version → a.Agrees b

theorem Precedes.refl (a : TemplateRow) : a.Precedes a := ⟨Int.le_refl _, fun _ => rfl⟩

/-- Later states of later states are later states. -/
theorem Precedes.trans {a b c : TemplateRow} (hab : a.Precedes b) (hbc : b.Precedes c) :
    a.Precedes c := by
  refine ⟨Int.le_trans hab.version_le hbc.version_le, fun h => ?_⟩
  have h1 := hab.version_le
  have h2 := hbc.version_le
  exact (hab.agrees (by omega)).trans (hbc.agrees (by omega))

theorem Precedes.of_version_lt {a b : TemplateRow} (h : a.version < b.version) : a.Precedes b :=
  ⟨Int.le_of_lt h, fun he => absurd he (Int.ne_of_lt h)⟩

end TemplateRow

namespace Store

variable {s s' : Store}

/-- Losing the mark of a scope leads to a later state. -/
theorem precedes_cleared (s : Store) (scope : String) (keep : Option String) (r : TemplateRow) :
    r.Precedes (s.cleared scope keep r) := by
  unfold cleared
  split
  · exact ⟨Int.le_refl _, fun _ => rfl⟩
  · exact .refl r

/-! ### Later states of a store -/

/-- Every row is still there, in a later state. -/
def Precedes (s s' : Store) : Prop :=
  ∀ id r, s.find? id = some r → ∃ r', s'.find? id = some r' ∧ r.Precedes r'

theorem Precedes.refl (s : Store) : s.Precedes s := fun _ r h => ⟨r, h, .refl r⟩

theorem Precedes.trans {s'' : Store} (h : s.Precedes s') (h' : s'.Precedes s'') :
    s.Precedes s'' := by
  intro id r hr
  obtain ⟨r', hr', hp⟩ := h id r hr
  obtain ⟨r'', hr'', hp'⟩ := h' id r' hr'
  exact ⟨r'', hr'', hp.trans hp'⟩

theorem Precedes.of_rows_eq (h : s'.rows = s.rows) : s.Precedes s' := by
  intro id r hr
  rw [← find?_congr h] at hr
  exact ⟨r, hr, .refl r⟩

/-- A map over the rows leads on if it leads on from every row that can be found. -/
theorem Precedes.of_map {g : TemplateRow → TemplateRow}
    (hfind : ∀ id, s'.find? id = (s.find? id).map g)
    (hg : ∀ id r, s.find? id = some r → r.Precedes (g r)) : s.Precedes s' := by
  intro id r hr
  refine ⟨g r, ?_, hg id r hr⟩
  rw [hfind, hr, Option.map_some]

theorem precedes_clearDefaults (s : Store) (scope : String) (keep : Option String) :
    s.Precedes (s.clearDefaults scope keep) :=
  .of_map (find?_clearDefaults s scope keep) fun _ r _ => precedes_cleared s scope keep r

theorem precedes_vacated (s : Store) (r : TemplateRow) : s.Precedes (s.vacated r) := by
  unfold vacated
  split
  · exact precedes_clearDefaults s r.scope none
  · exact .refl s

/-- One more row behind the others leaves them as they are. -/
theorem Precedes.of_append {r : TemplateRow} (h : s'.rows = s.rows ++ [r]) : s.Precedes s' := by
  intro id x hx
  refine ⟨x, ?_, .refl x⟩
  have hx' : s.rows.find? (·.id = id) = some x := hx
  rw [find?_append h, hx', Option.some_or]

/-- A revision leads to a later state: the row is one version on, the others lose a mark at most. -/
theorem precedes_writeRevision {r : TemplateRow} (found : s.find? r.id = some r)
    (content : StoredContent) (isDefault isActive : Bool) :
    s.Precedes (s.writeRevision r content isDefault isActive).2 := by
  refine .of_map (find?_writeRevision s r content isDefault isActive) fun id x hx => ?_
  -- the row itself moves on, the others keep their version
  by_cases hid : x.id = r.id
  · have hxr : x = r := by
      rw [← id_of_find? hx, hid, found] at hx
      exact (Option.some.inj hx).symm
    rw [afterRevision_of_eq _ _ _ _ _ hid, hxr]
    exact .of_version_lt (Int.lt_succ r.version)
  · rcases afterRevision_of_ne s r content isDefault isActive hid with h | h
    · rw [h]
      exact .refl x
    · rw [h]
      exact precedes_cleared ..

/-- Every change leads to a later state. -/
theorem Precedes.of_change (hc : s.Change s') : s.Precedes s' := by
  cases hc with
  | nothing rows => exact .of_rows_eq rows
  | added r fresh active rows => exact (precedes_vacated s r).trans (.of_append rows)
  | revised r content isDefault isActive found marks rows =>
    exact (precedes_writeRevision found content isDefault isActive).trans (.of_rows_eq rows)
  | kept r found isDefault rows =>
    exact (precedes_clearDefaults s r.scope (some r.id)).trans (.of_rows_eq rows)

/-! ### Definitions on file -/

theorem precedes_updateContent (s : Store) (d : Definition) : s.Precedes (s.updateContent d) := by
  unfold updateContent update
  refine .of_map (find?_modify s d.id fun _ => rfl) fun _ r _ => ?_
  split
  · exact .of_version_lt (Int.lt_succ r.version)
  · exact .refl r

/-- A definition on file leads to a later state. -/
theorem precedes_syncOne (s : Store) (d : Definition) (report : SyncReport) :
    s.Precedes (syncOne d report s).2 := by
  unfold syncOne
  split
  · split
    · exact .refl s
    · exact precedes_updateContent s d
  · exact (precedes_vacated s (s.rowOfDefinition d)).trans (.of_append rfl)

theorem precedes_syncFrom (ds : List Definition) (report : SyncReport) (s : Store) :
    s.Precedes (syncFrom ds report s).2 := by
  induction ds generalizing report s with
  | nil => exact .refl s
  | cons d rest ih => exact (precedes_syncOne s d report).trans (ih _ _)

/-- A sync leads to a later state. -/
theorem precedes_sync (s : Store) (files : List TextFile) : s.Precedes (s.sync files).2 := by
  unfold sync
  split
  · exact precedes_syncFrom _ {} s
  · exact .refl s

end Store

/-! ### Runs -/

/-- An edit, or a sync with the files of a directory. -/
inductive StoreAction where
  | edit (e : StoreEdit)
  | sync (files : List TextFile)

/-- The store after an action, be it successful or not. -/
def StoreAction.apply : StoreAction → Store → Store
  | edit e, s => e.apply s
  | sync files, s => (s.sync files).2

namespace Store

variable {s : Store}

/-- The store after a run of actions. -/
def run (s : Store) (acts : List StoreAction) : Store := acts.foldl (fun s a => a.apply s) s

theorem run_append (s : Store) (acts more : List StoreAction) :
    s.run (acts ++ more) = (s.run acts).run more := List.foldl_append

theorem run_take_succ (s : Store) {acts : List StoreAction} {i : Nat} {a : StoreAction}
    (h : acts[i]? = some a) : s.run (acts.take (i + 1)) = a.apply (s.run (acts.take i)) := by
  rw [List.take_add_one, h, run_append]
  rfl

theorem precedes_apply (s : Store) (a : StoreAction) : s.Precedes (a.apply s) := by
  cases a with
  | edit e => exact .of_change (change_apply s e)
  | sync files => exact precedes_sync s files

/-- Every run leads to a later state. -/
theorem precedes_run (s : Store) (acts : List StoreAction) : s.Precedes (s.run acts) := by
  -- along the actions: what one leads to precedes what the rest lead to
  induction acts generalizing s with
  | nil => exact .refl s
  | cons a rest ih => exact (precedes_apply s a).trans (ih (a.apply s))

/-- What comes later in a run is a later state. -/
theorem precedes_run_take (s : Store) (acts : List StoreAction) {i j : Nat} (hij : i ≤ j) :
    (s.run (acts.take i)).Precedes (s.run (acts.take j)) := by
  obtain ⟨more, hmore⟩ := List.take_prefix_take_left (l := acts) hij
  rw [← hmore, run_append]
  exact precedes_run _ more

/-- A patch that succeeds has found the version it expects, and leaves the next one. -/
theorem version_of_updated {id : String} {p : TemplatePatch} {row : TemplateRow}
    (h : (s.patch id p).1 = .ok (.updated row)) :
    ∃ r, s.find? id = some r ∧ r.version = p.expectedVersion ∧
      ∃ r', (s.patch id p).2.find? id = some r' ∧ r'.version = p.expectedVersion + 1 := by
  cases hr : s.find? id with
  | none =>
    unfold patch patchAmid at h
    rw [hr] at h
    cases h
  | some r =>
    rw [patch_of_find? hr] at h ⊢
    split at h
    · cases h
    · next hv =>
      rw [if_neg hv]
      have hversion : r.version = p.expectedVersion := not_not.mp hv
      refine ⟨r, rfl, hversion, ?_⟩
      unfold patchRow at h ⊢
      dsimp only at h ⊢
      cases hc : p.applied r.toStoredContent with
      | error f =>
        rw [hc] at h
        cases h
      | ok content =>
        refine ⟨_, (find?_writeRevision ..).trans (by rw [hr, Option.map_some]), ?_⟩
        rw [afterRevision_of_eq _ _ _ _ _ rfl, ← hversion]
        rfl

/-- In every run of the store, whatever its actions are given and whether they succeed: a row that
is there at one point is there at every later point, with a version that is no lower; where the
versions are the same, the row is the same up to the default mark and the date of change. And of two
patches of one row that expect the same version, at most one succeeds. -/
theorem run_versions (s : Store) (acts : List StoreAction) :
    (∀ i j, i ≤ j → ∀ id r, (s.run (acts.take i)).find? id = some r →
      ∃ r', (s.run (acts.take j)).find? id = some r' ∧ r.version ≤ r'.version ∧
        (r.version = r'.version → r.Agrees r')) ∧
    ∀ i j, i < j → ∀ id p q, acts[i]? = some (.edit (.patch id p)) →
      acts[j]? = some (.edit (.patch id q)) → p.expectedVersion = q.expectedVersion →
      ∀ row row', ¬ (((s.run (acts.take i)).patch id p).1 = .ok (.updated row) ∧
        ((s.run (acts.take j)).patch id q).1 = .ok (.updated row')) := by
  constructor
  · intro i j hij id r hr
    obtain ⟨r', hr', hp⟩ := precedes_run_take s acts hij id r hr
    exact ⟨r', hr', hp.version_le, hp.agrees⟩
  · rintro i j hij id p q hi - hpq row row' ⟨hp, hq⟩
    obtain ⟨-, -, -, r, hr, hrv⟩ := version_of_updated hp
    obtain ⟨x, hx, hxv, -⟩ := version_of_updated hq
    -- the first patch has left a version past the one that the second expects
    have hstep : (s.run (acts.take (i + 1))).find? id = some r := by
      rw [run_take_succ s hi]
      exact hr
    obtain ⟨y, hy, hle⟩ := precedes_run_take s acts hij id r hstep
    rw [hx] at hy
    have hxy : x = y := Option.some.inj hy
    have hver := hle.version_le
    rw [← hxy] at hver
    omega

end Store

end QuotationPress
