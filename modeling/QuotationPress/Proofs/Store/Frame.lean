import QuotationPress.Proofs.Store.Preview
import QuotationPress.Proofs.Store.WriteBack

/-!
# What an edit changes and what it leaves alone

An edit does nothing to the rows, or it writes one row, and then every other row stays as it is,
except that the default rows of a scope give up their mark to a row that is now its default.
`StoreEdit.Effect` says so of all edits; the one thing that counts for the others is the row as the
edit leaves it (`TemplateRow.yielded`). `Store.PatchEffect` sorts what can become of a patch.
`run_effects` is the statement for the stores that runs of actions lead to.
-/

namespace QuotationPress

/-! ### The row that is written and the others -/

/-- What becomes of a row when another row `t` is written: if `t` is then a default, the row gives
up the mark of the scope of `t`. -/
def TemplateRow.yielded (x : TemplateRow) (now : Moment) (t : TemplateRow) : TemplateRow :=
  if t.isDefault = true ∧ x.isDefault = true ∧ x.scope = t.scope then
    { x with isDefault := false, updatedAt := now }
  else x

/-- The row that an edit is about, as the edit leaves it; none where the edit does not come
about. -/
def StoreEdit.target? (e : StoreEdit) (s : Store) : Option TemplateRow :=
  match e with
  | deactivate id => if (s.deactivate id).1 then (s.deactivate id).2.find? id else none
  | e => e.answer? s

/-- The id of the row that an edit changes. -/
def StoreEdit.named? : StoreEdit → Option String
  | replace id _ => some id
  | patch id _ => some id
  | setDefault id => some id
  | deactivate id => some id
  | create _ => none
  | duplicate _ _ => none
  | wait _ => none

/-- What an edit does to the rows. -/
inductive StoreEdit.Effect (e : StoreEdit) (s : Store) : Prop where
  | nothing (untold : e.target? s = none) (rows : (e.apply s).rows = s.rows)
  /-- The row that the edit names is written over, and the others yield to it. -/
  | written (t : TemplateRow) (told : e.target? s = some t) (named : e.named? = some t.id)
      (stored : s.find? t.id ≠ none)
      (rows : (e.apply s).rows = s.rows.map fun x => if x.id = t.id then t else x.yielded s.clock t)
  /-- A row with a new id comes behind the others, which yield to it. -/
  | added (t : TemplateRow) (told : e.target? s = some t) (unnamed : e.named? = none)
      (fresh : s.find? t.id = none)
      (rows : (e.apply s).rows = s.rows.map (fun x => x.yielded s.clock t) ++ [t])

/-! ### Patches -/

namespace TemplatePatch

/-- The values that a patch gives are of the kinds that JSON has. -/
structure IsJson (p : TemplatePatch) : Prop where
  elements : ∀ given, p.elements = some given → ∀ fs ∈ given, (Value.obj fs).IsJson
  settings : ∀ given, p.settings = some given → (Value.obj given).IsJson
  branding : ∀ given, p.branding = some given → (Value.obj given).IsJson

/-- A column holds what is given as a JSON text, or what it held. -/
structure Rewrites {α : Type} (write : α → Outcome String) (given : Option α) (old new : String) :
    Prop where
  kept : given = none → new = old
  written : ∀ a, given = some a → write a = .ok new

/-- `t` is the row `r` with the given fields of a patch in their places, one version on. It is a
default only if it is active. -/
structure Revises (p : TemplatePatch) (now : Moment) (r t : TemplateRow) : Prop where
  id : t.id = r.id
  name : t.name = p.name.getD r.name
  description : t.description = p.description.getD r.description
  theme : t.theme = p.theme.getD r.theme
  category : t.category = p.category.getD r.category
  scope : t.scope = p.scope.getD r.scope
  elements : Rewrites TemplateBody.elementsText p.elements r.elements t.elements
  settings : Rewrites TemplateBody.fieldsText p.settings r.settings t.settings
  branding : Rewrites TemplateBody.fieldsText p.branding r.branding t.branding
  isActive : t.isActive = p.isActive.getD r.isActive
  isDefault : t.isDefault = (p.isDefault.getD r.isDefault && t.isActive)
  version : t.version = r.version + 1
  createdBy : t.createdBy = r.createdBy
  createdAt : t.createdAt = r.createdAt
  updatedAt : t.updatedAt = now

theorem rewrites_of_textOr {α : Type} {write : α → Outcome String} {given : Option α}
    {old new : String} (h : textOr write old given = .ok new) : Rewrites write given old new := by
  cases given with
  | none => exact ⟨fun _ => (Except.ok.inj h).symm, nofun⟩
  | some a => exact ⟨nofun, fun b same => Option.some.inj same ▸ h⟩

/-- A patch of JSON values can be stored. -/
theorem IsJson.applied {p : TemplatePatch} (json : p.IsJson) (c : StoredContent) :
    Outcome.Succeeds (p.applied c) := by
  have column {α : Type} {write : α → Outcome String} {given : Option α} (kept : String)
      (writes : ∀ a, given = some a → ∃ text, write a = .ok text) : ∃ text,
      textOr write kept given = .ok text := by
    cases given with
    | none => exact ⟨kept, rfl⟩
    | some a => exact writes a rfl
  obtain ⟨elements, hElements⟩ :=
    column c.elements fun given h => elementsText_succeeds (json.elements given h)
  obtain ⟨settings, hSettings⟩ :=
    column c.settings fun given h => fieldsText_succeeds (json.settings given h)
  obtain ⟨branding, hBranding⟩ :=
    column c.branding fun given h => fieldsText_succeeds (json.branding given h)
  rw [TemplatePatch.applied, hElements, Outcome.ok_bind, hSettings, Outcome.ok_bind, hBranding,
    Outcome.ok_bind]
  exact Outcome.succeeds_pure

end TemplatePatch

namespace Store

variable {s : Store} {r x : TemplateRow}

/-- What becomes of a patch. -/
inductive PatchEffect (s : Store) (id : String) (p : TemplatePatch) : Prop where
  | missing (absent : s.find? id = none) (result : s.patch id p = (.ok .missing, s))
  | conflict (r : TemplateRow) (found : s.find? id = some r) (stale : r.version ≠ p.expectedVersion)
      (result : s.patch id p = (.ok (.conflict p.expectedVersion r.version), s))
  | updated (r t : TemplateRow) (found : s.find? id = some r)
      (current : r.version = p.expectedVersion)
      (result : (s.patch id p).1 = .ok (.updated t)) (stored : (s.patch id p).2.find? id = some t)
      (revises : p.Revises s.clock r t)
  /-- Values that cannot be written as JSON texts are refused. -/
  | refused (r : TemplateRow) (f : Failure) (found : s.find? id = some r)
      (current : r.version = p.expectedVersion) (values : ¬ p.IsJson)
      (result : s.patch id p = (.error f, s))

section Patch

variable {id : String} {p : TemplatePatch}

/-- A patch of a row that is not there says so and does nothing. -/
theorem patch_of_absent (absent : s.find? id = none) : s.patch id p = (.ok .missing, s) := by
  simp only [patch, patchAmid, absent]

/-- A patch with another version than the row's says which two there are and does nothing. -/
theorem patch_of_stale (found : s.find? id = some r) (stale : r.version ≠ p.expectedVersion) :
    s.patch id p = (.ok (.conflict p.expectedVersion r.version), s) := by
  rw [patch_of_find? found, if_pos stale]

/-- A patch whose values cannot be written does nothing. -/
theorem patch_of_unwritten (found : s.find? id = some r) (current : r.version = p.expectedVersion)
    {f : Failure} (unwritten : p.applied r.toStoredContent = .error f) :
    s.patch id p = (.error f, s) := by
  rw [patch_of_find? found, if_neg (not_not.mpr current), patchRow, unwritten]

/-- The revision of a row that a patch with this content writes. -/
def patchRevision (s : Store) (r : TemplateRow) (p : TemplatePatch) (content : StoredContent) :
    TemplateRow :=
  s.revision r content (p.isDefault.getD r.isDefault && p.isActive.getD r.isActive)
    (p.isActive.getD r.isActive)

/-- A patch that can be written answers with the revision it has written. -/
theorem patch_of_applied (found : s.find? id = some r) (current : r.version = p.expectedVersion)
    {content : StoredContent} (applied : p.applied r.toStoredContent = .ok content) :
    s.patch id p = (.ok (.updated (s.patchRevision r p content)),
      (s.writeRevision r content (p.isDefault.getD r.isDefault && p.isActive.getD r.isActive)
        (p.isActive.getD r.isActive)).2) := by
  rw [patch_of_find? found, if_neg (not_not.mpr current), patchRow, applied]
  simp only [writeRevision_fst, patchRevision]

/-- The revision replaces the fields that are given and keeps the others. -/
theorem revises_patchRevision {content : StoredContent}
    (applied : p.applied r.toStoredContent = .ok content) :
    p.Revises s.clock r (s.patchRevision r p content) := by
  obtain ⟨elements, hElements, rest⟩ := Outcome.bind_eq_ok.mp applied
  obtain ⟨settings, hSettings, rest⟩ := Outcome.bind_eq_ok.mp rest
  obtain ⟨branding, hBranding, rest⟩ := Outcome.bind_eq_ok.mp rest
  obtain rfl := Except.ok.inj rest
  exact {
    id := rfl, name := rfl, description := rfl, theme := rfl, category := rfl, scope := rfl
    elements := TemplatePatch.rewrites_of_textOr hElements
    settings := TemplatePatch.rewrites_of_textOr hSettings
    branding := TemplatePatch.rewrites_of_textOr hBranding
    isActive := rfl, isDefault := rfl, version := rfl, createdBy := rfl, createdAt := rfl
    updatedAt := rfl }

/-- Every patch does one of the four things. -/
theorem patchEffect (s : Store) (id : String) (p : TemplatePatch) : s.PatchEffect id p := by
  cases found : s.find? id with
  | none => exact .missing found (patch_of_absent found)
  | some r =>
    -- the version is looked at before the values are written
    by_cases current : r.version = p.expectedVersion
    · cases applied : p.applied r.toStoredContent with
      | error f =>
        refine .refused r f found current (fun json => ?_)
          (patch_of_unwritten found current applied)
        obtain ⟨content, succeeds⟩ := json.applied r.toStoredContent
        cases applied.symm.trans succeeds
      | ok content =>
        have result := patch_of_applied found current applied
        refine .updated r _ found current (congrArg Prod.fst result) ?_
          (revises_patchRevision applied)
        rw [result, find?_writeRevision, found, Option.map_some, afterRevision_of_eq _ _ _ _ _ rfl]
        rfl
    · exact .conflict r found current (patch_of_stale found current)

end Patch

/-! ### The other rows -/

/-- Taking the mark of a row's scope from all rows is the same as yielding to the row. -/
theorem cleared_eq_yielded {t : TemplateRow} (marked : t.isDefault = true) {keep : Option String}
    (other : some x.id ≠ keep) : s.cleared t.scope keep x = x.yielded s.clock t := by
  have loses : losesDefault t.scope keep x = true ↔
      t.isDefault = true ∧ x.isDefault = true ∧ x.scope = t.scope := by
    simp only [losesDefault, Bool.and_eq_true, decide_eq_true_eq, marked, other, ne_eq,
      not_false_eq_true, true_and, and_true]
    exact And.comm
  simp only [cleared, TemplateRow.yielded, loses]

/-- Nobody yields to a row that is no default. -/
theorem yielded_of_unmarked {now : Moment} {t : TemplateRow} (unmarked : t.isDefault = false) :
    x.yielded now t = x := by
  rw [TemplateRow.yielded, if_neg]
  simp [unmarked]

/-- When a row comes in, each of the others yields to it. -/
theorem vacated_rows (s : Store) (t : TemplateRow) :
    (s.vacated t).rows = s.rows.map fun x => x.yielded s.clock t := by
  cases marked : t.isDefault with
  | true =>
    rw [vacated, if_pos marked, clearDefaults_rows]
    exact List.map_congr_left fun x _ => cleared_eq_yielded marked (by simp)
  | false =>
    rw [vacated, marked, if_neg Bool.false_ne_true]
    exact ((List.map_congr_left fun x _ => yielded_of_unmarked marked).trans (List.map_id _)).symm

/-- When a row is revised, each of the others yields to the revision. -/
theorem writeRevision_yielded (s : Store) (r : TemplateRow) (content : StoredContent)
    (isDefault isActive : Bool) :
    (s.writeRevision r content isDefault isActive).2.rows = s.rows.map fun x =>
      if x.id = r.id then s.revision r content isDefault isActive
      else x.yielded s.clock (s.revision r content isDefault isActive) := by
  rw [writeRevision_rows]
  refine List.map_congr_left fun x _ => ?_
  unfold afterRevision
  split
  · rfl
  · next other =>
    have yields : isDefault = true → s.cleared content.scope (some r.id) x =
        x.yielded s.clock (s.revision r content isDefault isActive) := fun marked =>
      cleared_eq_yielded (t := s.revision r content isDefault isActive) marked fun h =>
        other (Option.some.inj h)
    cases isDefault with
    | true => exact yields rfl
    | false => exact (yielded_of_unmarked rfl).symm

/-- A default row that stays as it is takes the mark from the others. -/
theorem clearDefaults_yielded (unique : s.UniqueIds) (hr : r ∈ s.rows)
    (marked : r.isDefault = true) :
    (s.clearDefaults r.scope (some r.id)).rows =
      s.rows.map fun x => if x.id = r.id then r else x.yielded s.clock r := by
  rw [clearDefaults_rows]
  refine List.map_congr_left fun x hx => ?_
  split
  · next same =>
    rw [unique.eq_of_id_eq hx hr same, cleared, if_neg (by simp [losesDefault_keep])]
  · next other => exact cleared_eq_yielded marked fun h => other (Option.some.inj h)

/-! ### The effect of each edit -/

/-- An edit that adds a row writes this row, if its id is free, and else nothing. -/
theorem effect_of_added {e : StoreEdit} {issued : Nat} {t : TemplateRow} (unnamed : e.named? = none)
    (applied : e.apply s = (added { s with issued } t).2)
    (told : e.target? s = (added { s with issued } t).1.toOption) : e.Effect s := by
  by_cases fresh : find? { s with issued } t.id = none
  · have vacant : (vacated { s with issued } t).rows = s.rows.map fun x => x.yielded s.clock t :=
      vacated_rows { s with issued } t
    rw [added_of_fresh fresh] at applied told
    refine .added t told unnamed fresh ?_
    rw [applied, vacant]
  · rw [added_of_taken fresh] at applied told
    refine .nothing told ?_
    rw [applied]

/-- An edit that revises a row writes its revision. -/
theorem effect_of_writeRevision {e : StoreEdit} {content : StoredContent}
    {isDefault isActive : Bool} (found : s.find? r.id = some r) (named : e.named? = some r.id)
    (applied : e.apply s = (s.writeRevision r content isDefault isActive).2)
    (told : e.target? s = some (s.revision r content isDefault isActive)) : e.Effect s := by
  have stored : s.find? r.id ≠ none := by
    rw [found]
    exact Option.some_ne_none r
  refine .written (s.revision r content isDefault isActive) told named stored ?_
  rw [applied]
  exact writeRevision_yielded s r content isDefault isActive

theorem effect_create (s : Store) (d : TemplateDraft) : (StoreEdit.create d).Effect s := by
  cases stored : d.body.stored with
  | error f =>
    have created : s.create d = (.error f, s.issueId.2) := by simp only [create, stored]
    exact .nothing (show (s.create d).1.toOption = none by rw [created]; rfl)
      (show (s.create d).2.rows = s.rows by rw [created]; rfl)
  | ok content =>
    have created : s.create d =
        added { s with issued := s.issued + 1 }
          (s.issueId.2.newRow s.issueId.1 content d.isDefault d.createdBy) := by
      simp only [create, stored]
      rfl
    exact effect_of_added rfl (congrArg Prod.snd created) (congrArg (·.1.toOption) created)

theorem effect_replace (s : Store) (id : String) (d : TemplateReplacement) :
    (StoreEdit.replace id d).Effect s := by
  cases found : s.find? id with
  | none =>
    have result : s.replace id d = (.ok none, s) := by simp only [replace, found]
    exact .nothing (show (s.replace id d).1.toOption.join = none by rw [result]; rfl)
      (show (s.replace id d).2.rows = s.rows by rw [result])
  | some r =>
    cases stored : d.body.stored with
    | error f =>
      have result : s.replace id d = (.error f, s) := by simp only [replace, found, stored]
      exact .nothing (show (s.replace id d).1.toOption.join = none by rw [result]; rfl)
        (show (s.replace id d).2.rows = s.rows by rw [result])
    | ok content =>
      obtain rfl := id_of_find? found
      have result : s.replace r.id d =
          (.ok (some (s.writeRevision r content (d.isDefault && d.isActive) d.isActive).1),
            (s.writeRevision r content (d.isDefault && d.isActive) d.isActive).2) := by
        simp only [replace, found, stored]
      rw [writeRevision_fst] at result
      exact effect_of_writeRevision found rfl (congrArg Prod.snd result)
        (congrArg (·.1.toOption.join) result)

theorem effect_patch (s : Store) (id : String) (p : TemplatePatch) :
    (StoreEdit.patch id p).Effect s := by
  -- nothing is told unless the patch is written
  have nothing {y : Outcome Patched} (result : s.patch id p = (y, s))
    (fails : ∀ t, y ≠ .ok (.updated t)) :
      (StoreEdit.patch id p).Effect s := by
    refine .nothing ?_ (congrArg (·.2.rows) result)
    simp only [StoreEdit.target?, StoreEdit.answer?, result]
  cases found : s.find? id with
  | none => exact nothing (patch_of_absent found) fun _ h => by cases h
  | some r =>
    by_cases current : r.version = p.expectedVersion
    · cases applied : p.applied r.toStoredContent with
      | error f => exact nothing (patch_of_unwritten found current applied) fun _ h => by cases h
      | ok content =>
        obtain rfl := id_of_find? found
        have result := patch_of_applied found current applied
        refine effect_of_writeRevision found rfl (congrArg Prod.snd result) ?_
        simp only [StoreEdit.target?, StoreEdit.answer?, result]
        rfl
    · exact nothing (patch_of_stale found current) fun _ h => by cases h

theorem effect_setDefault (unique : s.UniqueIds) (id : String) :
    (StoreEdit.setDefault id).Effect s := by
  cases usable : s.findUsable? id false with
  | none =>
    have result : s.setDefault id = (none, s) := by simp only [setDefault, usable]
    exact .nothing (congrArg Prod.fst result) (congrArg (·.2.rows) result)
  | some r =>
    obtain ⟨found, -⟩ := findUsable?_eq_some usable
    have named : r.id = id := id_of_find? (Option.filter_eq_some_iff.mp usable).1
    -- a row that is the default already is not written, and still the others yield to it
    by_cases marked : r.isDefault = true
    · have result : s.setDefault id = (some r, s.clearDefaults r.scope (some r.id)) := by
        simp only [setDefault, usable, if_pos marked]
      refine .written r (congrArg Prod.fst result) (congrArg some named.symm) ?_ ?_
      · rw [found]
        exact Option.some_ne_none r
      · rw [← clearDefaults_yielded unique (mem_of_find? found) marked]
        exact congrArg (·.2.rows) result
    · have result : s.setDefault id = (some (s.writeRevision r r.toStoredContent true r.isActive).1,
          (s.writeRevision r r.toStoredContent true r.isActive).2) := by
        simp only [setDefault, usable, if_neg marked]
      rw [writeRevision_fst] at result
      exact effect_of_writeRevision found (congrArg some named.symm) (congrArg Prod.snd result)
        (congrArg Prod.fst result)

theorem effect_deactivate (s : Store) (id : String) : (StoreEdit.deactivate id).Effect s := by
  cases usable : s.findUsable? id false with
  | none =>
    have result : s.deactivate id = (false, s) := by simp only [deactivate, usable]
    exact .nothing (by simp [StoreEdit.target?, result]) (congrArg (·.2.rows) result)
  | some r =>
    obtain ⟨found, -⟩ := findUsable?_eq_some usable
    have named : r.id = id := id_of_find? (Option.filter_eq_some_iff.mp usable).1
    have result : s.deactivate id =
        (true, (s.writeRevision r r.toStoredContent false false).2) := by
      simp only [deactivate, usable]
    refine effect_of_writeRevision found (congrArg some named.symm) (congrArg Prod.snd result) ?_
    simp only [StoreEdit.target?, result, if_true]
    rw [find?_writeRevision, ← named, found, Option.map_some, afterRevision_of_eq _ _ _ _ _ rfl]

theorem effect_duplicate (s : Store) (id : String) (name : Option String) :
    (StoreEdit.duplicate id name).Effect s := by
  cases usable : s.findUsable? id false with
  | none =>
    have result : s.duplicate id name = (.ok none, s) := by simp only [duplicate, usable]
    exact .nothing (congrArg (·.1.toOption.join) result) (congrArg (·.2.rows) result)
  | some r =>
    have result := duplicate_of_findUsable? usable name
    -- an answer with a row tells of it as the row alone does
    have told (y : Outcome TemplateRow) : (y.map some).toOption.join = y.toOption := by
      cases y <;> rfl
    exact effect_of_added rfl (congrArg Prod.snd result)
      ((congrArg (·.1.toOption.join) result).trans (told _))

/-- Every edit writes the row it is about and no other. -/
theorem effect_apply (unique : s.UniqueIds) (e : StoreEdit) : e.Effect s := by
  cases e with
  | create d => exact effect_create s d
  | replace id d => exact effect_replace s id d
  | patch id p => exact effect_patch s id p
  | setDefault id => exact effect_setDefault unique id
  | deactivate id => exact effect_deactivate s id
  | duplicate id name => exact effect_duplicate s id name
  | wait n => exact .nothing rfl rfl

/-- In every store that a run of actions has led to: a patch of a missing row or with a version that
is not the expected one does nothing and says so, every other patch of JSON values replaces the
given fields of the row; and every edit leaves all rows as they are but the one it is about, which
takes the mark of its scope from the default rows if it is a default afterwards. -/
theorem run_effects (clock : Moment) (issued : Nat) (acts : List StoreAction) :
    (∀ id p, PatchEffect (run { clock, issued } acts) id p) ∧
      ∀ e : StoreEdit, e.Effect (run { clock, issued } acts) := by
  obtain ⟨unique, -⟩ :=
    run_marks (s := { clock, issued }) List.nodup_nil (fun r hr => nomatch hr) acts
  exact ⟨patchEffect _, effect_apply unique⟩

end Store

end QuotationPress
