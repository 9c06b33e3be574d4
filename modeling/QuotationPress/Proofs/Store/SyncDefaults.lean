import Mathlib.Data.List.Induction
import Mathlib.Data.List.Pairwise
import QuotationPress.Proofs.Store.SingleDefaults
import QuotationPress.Store.Sync

/-!
# What a sync does to the defaults of a store

A new definition can claim the default mark of its scope, and takes it from the rows that hold it; a
definition of a stored row rewrites the row and leaves its mark, so that a default row can carry its
mark into another scope. `Store.Lands` says in which scope the mark of a stored row ends up.
`syncWith_singleDefaults_iff`: a sync keeps one default for each scope exactly when no two marks
land in one scope and none lands in a scope that a new definition claims.
-/

namespace QuotationPress.Store

variable {s : Store} {d : Definition} {ds : List Definition}

/-! ### The rows after one definition -/

/-- A stored row after the definition `d`. -/
def rewritten (s : Store) (d : Definition) (x : TemplateRow) : TemplateRow :=
  if x.id = d.id ∧ x.toStoredContent ≠ d.content then
    { x with toStoredContent := d.content, version := x.version + 1, updatedAt := s.clock }
  else x

/-- A row keeps its id and its marks when its definition rewrites it. -/
theorem rewritten_marks (s : Store) (d : Definition) (x : TemplateRow) :
    (s.rewritten d x).id = x.id ∧ (s.rewritten d x).isDefault = x.isDefault ∧
      (s.rewritten d x).isActive = x.isActive := by
  unfold rewritten
  split
  · exact ⟨rfl, rfl, rfl⟩
  · exact ⟨rfl, rfl, rfl⟩

theorem rewritten_scope_of_eq {x : TemplateRow} (h : x.id = d.id) :
    (s.rewritten d x).scope = d.content.scope := by
  unfold rewritten
  split
  · rfl
  · next hc =>
    have heq : x.toStoredContent = d.content := not_not.mp fun hne => hc ⟨h, hne⟩
    rw [heq]

theorem rewritten_scope_of_ne {x : TemplateRow} (h : x.id ≠ d.id) :
    (s.rewritten d x).scope = x.scope := by
  unfold rewritten
  rw [if_neg fun hc => h hc.1]

/-- The definition of a stored row rewrites this row and leaves all others. -/
theorem syncOne_rows_of_some (hids : s.UniqueIds) {r : TemplateRow} (h : s.find? d.id = some r)
    (report : SyncReport) : (syncOne d report s).2.rows = s.rows.map (s.rewritten d) := by
  -- the row under the id is the only one that can be rewritten
  have heq : ∀ x ∈ s.rows, x.id = d.id → x = r := fun x hx hid =>
    hids.eq_of_id_eq hx (mem_of_find? h) (hid.trans (id_of_find? h).symm)
  unfold syncOne
  rw [h]
  dsimp only
  split
  · next hc =>
    symm
    refine (List.map_congr_left fun x hx => ?_).trans (List.map_id _)
    refine if_neg fun hne => hne.2 ?_
    rw [heq x hx hne.1, hc]
  · next hc =>
    refine List.map_congr_left fun x hx => ?_
    unfold rewritten
    by_cases hid : x.id = d.id
    · rw [if_pos hid, if_pos ⟨hid, by rwa [heq x hx hid]⟩]
    · rw [if_neg hid, if_neg fun hne => hid hne.1]

/-- The definition of a new row adds it behind the others, which give up the mark that it
carries. -/
theorem syncOne_rows_of_none (h : s.find? d.id = none) (report : SyncReport) :
    (syncOne d report s).2.rows = (s.vacated (s.rowOfDefinition d)).rows ++
      [s.rowOfDefinition d] := by
  unfold syncOne
  rw [h]
  rfl

/-- A definition keeps the ids of rows apart. -/
theorem UniqueIds.syncOne (hids : s.UniqueIds) (d : Definition) (report : SyncReport) :
    (syncOne d report s).2.UniqueIds := by
  cases hf : s.find? d.id with
  | none =>
    exact (hids.vacated _).append (find?_vacated_eq_none.mpr hf) (syncOne_rows_of_none hf report)
  | some r =>
    unfold UniqueIds
    rw [syncOne_rows_of_some hids hf, List.map_map]
    have hid : TemplateRow.id ∘ s.rewritten d = TemplateRow.id :=
      funext fun x => (rewritten_marks s d x).1
    rw [hid]
    exact hids

/-- A definition takes the id that it defines, and frees none. -/
theorem find?_syncOne_eq_none (hids : s.UniqueIds) (report : SyncReport) {id : String} :
    (syncOne d report s).2.find? id = none ↔ s.find? id = none ∧ d.id ≠ id := by
  cases hf : s.find? d.id with
  | none =>
    rw [find?_append (syncOne_rows_of_none hf report)]
    have hv : (s.vacated (s.rowOfDefinition d)).find? id = none ↔ s.find? id = none :=
      find?_vacated_eq_none
    unfold find? at hv ⊢
    rw [Option.or_eq_none_iff, hv]
    refine and_congr_right fun _ => ?_
    have hid : (s.rowOfDefinition d).id = d.id := rfl
    by_cases h : d.id = id <;> simp [hid, h]
  | some r =>
    have hmap : (syncOne d report s).2.find? id = (s.find? id).map (s.rewritten d) := by
      unfold find?
      rw [syncOne_rows_of_some hids hf]
      exact find?_map_rows fun x => (rewritten_marks s d x).1
    rw [hmap, Option.map_eq_none_iff]
    refine ⟨fun h => ⟨h, ?_⟩, fun h => h.1⟩
    rintro rfl
    rw [hf] at h
    cases h

/-! ### Who holds the mark of a scope -/

/-- The row with an id is a default of the scope. -/
def Holds (s : Store) (id scope : String) : Prop :=
  ∃ r ∈ s.rows, r.id = id ∧ r.scope = scope ∧ r.isDefault = true

/-- A definition of a new row that is to be the default of the scope. -/
def Claims (s : Store) (scope : String) (d : Definition) : Prop :=
  s.find? d.id = none ∧ d.isDefault = true ∧ d.content.scope = scope

theorem Holds.find?_ne_none {id scope : String} (h : s.Holds id scope) : s.find? id ≠ none := by
  obtain ⟨r, hr, hid, -⟩ := h
  exact fun hf => find?_eq_none_iff.mp hf r hr hid

/-- Clearing a scope takes its mark from all who hold it, and leaves other marks. -/
theorem holds_clearDefaults {id scope other : String} :
    (s.clearDefaults other none).Holds id scope ↔ s.Holds id scope ∧ other ≠ scope := by
  unfold Holds
  rw [clearDefaults_rows]
  constructor
  · rintro ⟨_, hmem, hid, hscope, hd⟩
    obtain ⟨x, hx, rfl⟩ := List.mem_map.mp hmem
    rw [cleared_id] at hid
    rw [cleared_toStoredContent] at hscope
    obtain ⟨hdx, hkeep⟩ := cleared_isDefault.mp hd
    refine ⟨⟨x, hx, hid, hscope, hdx⟩, fun hother => ?_⟩
    exact nomatch hkeep (hscope.trans hother.symm)
  · rintro ⟨⟨x, hx, hid, hscope, hd⟩, hother⟩
    refine ⟨_, List.mem_map.mpr ⟨x, hx, rfl⟩, ?_, ?_, ?_⟩
    · rw [cleared_id, hid]
    · rw [cleared_toStoredContent, hscope]
    · exact cleared_isDefault.mpr ⟨hd, fun h => absurd (h.symm.trans hscope) hother⟩

/-- A new row takes the mark of the scope that it claims from all who hold it. -/
theorem holds_vacated (hf : s.find? d.id = none) {id scope : String} :
    (s.vacated (s.rowOfDefinition d)).Holds id scope ↔ s.Holds id scope ∧ ¬ s.Claims scope d := by
  have hclaims : s.Claims scope d ↔ d.isDefault = true ∧ d.content.scope = scope :=
    ⟨fun h => h.2, fun h => ⟨hf, h⟩⟩
  rw [hclaims]
  unfold vacated
  split
  · next hd =>
    rw [holds_clearDefaults]
    exact and_congr_right fun _ => ⟨fun h hc => h hc.2, fun h hc => h ⟨hd, hc⟩⟩
  · next hd => exact ⟨fun h => ⟨h, fun hc => hd hc.1⟩, fun h => h.1⟩

theorem holds_append {s' : Store} {r : TemplateRow} (h : s'.rows = s.rows ++ [r])
    {id scope : String} :
    s'.Holds id scope ↔ s.Holds id scope ∨ (r.id = id ∧ r.scope = scope ∧ r.isDefault = true) := by
  unfold Holds
  rw [h]
  simp only [List.mem_append, List.mem_singleton, or_and_right, exists_or, exists_eq_left]

/-- One definition: a claim gives the mark to the new row alone, a definition of a stored row
carries the mark of that row into its scope. -/
theorem holds_syncOne (hids : s.UniqueIds) (d : Definition) (report : SyncReport)
    (id scope : String) :
    (syncOne d report s).2.Holds id scope ↔
      (id = d.id ∧ s.Claims scope d) ∨
      (id = d.id ∧ scope = d.content.scope ∧ ∃ old, s.Holds id old) ∨
      (id ≠ d.id ∧ s.Holds id scope ∧ ¬ s.Claims scope d) := by
  -- a new row claims a mark, a stored one carries its own along
  cases hf : s.find? d.id with
  | none =>
    have hclaims : s.Claims scope d ↔ d.content.scope = scope ∧ d.isDefault = true :=
      ⟨fun h => ⟨h.2.2, h.2.1⟩, fun h => ⟨hf, h.2, h.1⟩⟩
    have hne : ∀ scope, s.Holds id scope → id ≠ d.id := by
      rintro scope h rfl
      exact h.find?_ne_none hf
    rw [holds_append (syncOne_rows_of_none hf report), holds_vacated hf]
    constructor
    · rintro (⟨h, hc⟩ | ⟨hid, h⟩)
      · exact .inr (.inr ⟨hne scope h, h, hc⟩)
      · exact .inl ⟨hid.symm, hclaims.mpr h⟩
    · rintro (⟨hid, hc⟩ | ⟨hid, -, old, h⟩ | ⟨-, h, hc⟩)
      · exact .inr ⟨hid.symm, hclaims.mp hc⟩
      · exact absurd hid (hne old h)
      · exact .inl ⟨h, hc⟩
  | some r =>
    have hclaims : ¬ s.Claims scope d := fun h => nomatch hf.symm.trans h.1
    unfold Holds
    rw [syncOne_rows_of_some hids hf]
    constructor
    · rintro ⟨_, hmem, hid, hscope, hd⟩
      obtain ⟨x, hx, rfl⟩ := List.mem_map.mp hmem
      obtain ⟨hxid, hxd, -⟩ := rewritten_marks s d x
      rw [hxid] at hid
      rw [hxd] at hd
      by_cases h : x.id = d.id
      · rw [rewritten_scope_of_eq h] at hscope
        exact .inr (.inl ⟨hid.symm.trans h, hscope.symm, x.scope, x, hx, hid, rfl, hd⟩)
      · rw [rewritten_scope_of_ne h] at hscope
        exact .inr (.inr ⟨fun he => h (hid.trans he), ⟨x, hx, hid, hscope, hd⟩, hclaims⟩)
    · rintro
        (⟨-, hc⟩ | ⟨hid, hscope, old, x, hx, hxid, -, hd⟩ | ⟨hid, ⟨x, hx, hxid, hscope, hd⟩, -⟩)
      · exact absurd hc hclaims
      · obtain ⟨h1, h2, -⟩ := rewritten_marks s d x
        refine ⟨_, List.mem_map.mpr ⟨x, hx, rfl⟩, h1.trans hxid, ?_, h2.trans hd⟩
        rw [rewritten_scope_of_eq (hxid.trans hid), hscope]
      · obtain ⟨h1, h2, -⟩ := rewritten_marks s d x
        refine ⟨_, List.mem_map.mpr ⟨x, hx, rfl⟩, h1.trans hxid, ?_, h2.trans hd⟩
        rw [rewritten_scope_of_ne fun he => hid (hxid.symm.trans he), hscope]

/-! ### All definitions, one after the other -/

theorem syncFrom_append_singleton (ds : List Definition) (d : Definition) (report : SyncReport)
    (s : Store) : syncFrom (ds ++ [d]) report s =
      syncOne d (syncFrom ds report s).1 (syncFrom ds report s).2 := by
  induction ds generalizing report s with
  | nil => rfl
  | cons e rest ih => exact ih _ _

theorem syncWith_append_singleton (s : Store) (ds : List Definition) (d : Definition) :
    (s.syncWith (ds ++ [d])).2 = (syncOne d (s.syncWith ds).1 (s.syncWith ds).2).2 := by
  unfold syncWith
  rw [syncFrom_append_singleton]

theorem UniqueIds.syncWith (hids : s.UniqueIds) (ds : List Definition) :
    (s.syncWith ds).2.UniqueIds := by
  induction ds using List.reverseRecOn with
  | nil => exact hids
  | append_singleton ds d ih =>
    rw [syncWith_append_singleton]
    exact ih.syncOne d _

/-- A sync issues the ids of the definitions and no others. -/
theorem find?_syncWith_eq_none (hids : s.UniqueIds) (ds : List Definition) {id : String} :
    (s.syncWith ds).2.find? id = none ↔ s.find? id = none ∧ id ∉ ds.map Definition.id := by
  induction ds using List.reverseRecOn with
  | nil => exact ⟨fun h => ⟨h, List.not_mem_nil⟩, fun h => h.1⟩
  | append_singleton ds d ih =>
    rw [syncWith_append_singleton, find?_syncOne_eq_none (hids.syncWith ds), ih]
    simp only [List.map_append, List.map_singleton, List.mem_append, List.mem_singleton, not_or,
      and_assoc, ne_eq, eq_comm]

/-- Definitions under other ids do not change what a definition claims. -/
theorem claims_syncWith (hids : s.UniqueIds) (hd : d.id ∉ ds.map Definition.id) {scope : String} :
    (s.syncWith ds).2.Claims scope d ↔ s.Claims scope d := by
  unfold Claims
  rw [find?_syncWith_eq_none hids]
  exact and_congr_left fun _ => ⟨fun h => h.1, fun h => ⟨h, hd⟩⟩

/-- Where the mark of a stored default row ends up: in the row's own scope if no definition is about
the row and none claims that scope; in the scope of the row's definition if nobody claims the old
scope before and the new one after. -/
inductive Lands (s : Store) (ds : List Definition) (r : TemplateRow) : String → Prop
  | stays (unnamed : r.id ∉ ds.map Definition.id) (unclaimed : ∀ d ∈ ds, ¬ s.Claims r.scope d) :
      Lands s ds r r.scope
  | moves (before : List Definition) (d : Definition) (after : List Definition)
      (split : ds = before ++ d :: after) (named : r.id = d.id)
      (unclaimed : ∀ x ∈ before, ¬ s.Claims r.scope x)
      (left : ∀ x ∈ after, ¬ s.Claims d.content.scope x) : Lands s ds r d.content.scope

/-- The last definition that claims a scope is the one with the id. -/
def ClaimedLast (s : Store) (ds : List Definition) (id scope : String) : Prop :=
  ∃ before d after, ds = before ++ d :: after ∧ id = d.id ∧ s.Claims scope d ∧
    ∀ x ∈ after, ¬ s.Claims scope x

/-- A list with one more member is cut at that member or before it. -/
theorem cut_append_singleton {before after : List Definition} {e : Definition}
    (h : ds ++ [d] = before ++ e :: after) :
    (before = ds ∧ e = d ∧ after = []) ∨ ∃ rest, after = rest ++ [d] ∧
      ds = before ++ e :: rest := by
  rcases List.eq_nil_or_concat after with rfl | ⟨rest, x, rfl⟩
  · obtain ⟨hds, hd⟩ := List.append_inj' h rfl
    exact .inl ⟨hds.symm, (List.singleton_inj.mp hd).symm, rfl⟩
  · rw [List.concat_eq_append, ← List.cons_append, ← List.append_assoc] at h
    obtain ⟨hds, hd⟩ := List.append_inj' h rfl
    refine .inr ⟨rest, ?_, hds⟩
    rw [List.concat_eq_append, List.singleton_inj.mp hd]

/-- One more definition has the last claim if it claims the scope, and else leaves the one
before. -/
theorem claimedLast_append_singleton {id scope : String} :
    s.ClaimedLast (ds ++ [d]) id scope ↔
      (id = d.id ∧ s.Claims scope d) ∨ (s.ClaimedLast ds id scope ∧ ¬ s.Claims scope d) := by
  constructor
  · rintro ⟨before, e, after, hcut, hid, hc, hafter⟩
    rcases cut_append_singleton hcut with ⟨-, rfl, -⟩ | ⟨rest, rfl, hds⟩
    · exact .inl ⟨hid, hc⟩
    · refine .inr ⟨⟨before, e, rest, hds, hid, hc, fun x hx => ?_⟩, ?_⟩
      · exact hafter x (List.mem_append_left _ hx)
      · exact hafter d (List.mem_append_right _ (List.mem_singleton_self d))
  · rintro (⟨hid, hc⟩ | ⟨⟨before, e, after, rfl, hid, hc, hafter⟩, hd⟩)
    · exact ⟨ds, d, [], rfl, hid, hc, fun x hx => nomatch hx⟩
    · refine ⟨before, e, after ++ [d], by simp, hid, hc, fun x hx => ?_⟩
      rcases List.mem_append.mp hx with hx | hx
      · exact hafter x hx
      · rw [List.mem_singleton.mp hx]
        exact hd

/-- One more definition carries the mark of its row into its scope, and takes the marks of the scope
that it claims. -/
theorem lands_append_singleton (hd : d.id ∉ ds.map Definition.id) {r : TemplateRow}
    {scope : String} :
    s.Lands (ds ++ [d]) r scope ↔
      (r.id = d.id ∧ scope = d.content.scope ∧ ∃ old, s.Lands ds r old) ∨
      (r.id ≠ d.id ∧ s.Lands ds r scope ∧ ¬ s.Claims scope d) := by
  have hlast : d ∈ ds ++ [d] := List.mem_append_right _ (List.mem_singleton_self d)
  constructor
  · -- the mark lands by the last definition if that is about the row, and else where it had landed
    -- before
    rintro (⟨unnamed, unclaimed⟩ | ⟨before, e, after, hcut, named, unclaimed, left⟩)
    · rw [List.map_append, List.mem_append, not_or] at unnamed
      refine .inr ⟨fun h => unnamed.2 (by simp [h]), ?_, unclaimed d hlast⟩
      exact .stays unnamed.1 fun x hx => unclaimed x (List.mem_append_left _ hx)
    · rcases cut_append_singleton hcut with ⟨rfl, rfl, rfl⟩ | ⟨rest, rfl, rfl⟩
      · refine .inl ⟨named, rfl, r.scope, .stays ?_ unclaimed⟩
        rw [named]
        exact hd
      · have hne : r.id ≠ d.id := fun h => hd (by simp [← h, named])
        refine .inr ⟨hne, ?_, left d (List.mem_append_right _ (List.mem_singleton_self d))⟩
        exact .moves before e rest rfl named unclaimed fun x hx =>
          left x (List.mem_append_left _ hx)
  · rintro (⟨named, rfl, old, h⟩ | ⟨hne, h, hc⟩)
    · cases h with
      | stays unnamed unclaimed => exact .moves ds d [] rfl named unclaimed fun x hx => nomatch hx
      | moves before e after split named' unclaimed left =>
        refine absurd ?_ hd
        rw [split, ← named, named']
        simp
    · cases h with
      | stays unnamed unclaimed =>
        refine .stays ?_ fun x hx => ?_
        · rw [List.map_append, List.mem_append, not_or]
          exact ⟨unnamed, by simpa using hne⟩
        · rcases List.mem_append.mp hx with hx | hx
          · exact unclaimed x hx
          · rw [List.mem_singleton.mp hx]
            exact hc
      | moves before e after split named unclaimed left =>
        refine .moves before e (after ++ [d]) (by simp [split]) named unclaimed fun x hx => ?_
        rcases List.mem_append.mp hx with hx | hx
        · exact left x hx
        · rw [List.mem_singleton.mp hx]
          exact hc

/-- Who holds the mark of a scope after a sync: the stored rows whose marks land there, and the last
new row that has claimed it. -/
theorem holds_syncWith (hids : s.UniqueIds) (hds : (ds.map Definition.id).Nodup)
    (id scope : String) :
    (s.syncWith ds).2.Holds id scope ↔
      (∃ r ∈ s.rows, r.id = id ∧ r.isDefault = true ∧ s.Lands ds r scope) ∨
      s.ClaimedLast ds id scope := by
  -- from the end: the marks after one more definition are told by `holds_syncOne` from the marks
  -- before
  induction ds using List.reverseRecOn generalizing id scope with
  | nil =>
    constructor
    · rintro ⟨r, hr, hid, rfl, hd⟩
      exact .inl ⟨r, hr, hid, hd, .stays List.not_mem_nil fun _ hx => nomatch hx⟩
    · rintro (⟨r, hr, hid, hd, h⟩ | ⟨before, e, after, hcut, -⟩)
      · cases h with
        | stays => exact ⟨r, hr, hid, rfl, hd⟩
        | moves before e after split => simp at split
      · simp at hcut
  | append_singleton ds d ih =>
    rw [List.map_append, List.map_singleton, List.nodup_append] at hds
    have hd : d.id ∉ ds.map Definition.id := fun h => hds.2.2 _ h _ (List.mem_singleton_self _) rfl
    have ih := fun id scope => ih hds.1 id scope
    have hne : ∀ scope, s.ClaimedLast ds id scope → id ≠ d.id := by
      rintro scope ⟨before, e, after, hcut, he, -⟩ h
      refine hd ?_
      rw [hcut, ← h, he]
      simp
    rw [syncWith_append_singleton, holds_syncOne (hids.syncWith ds), claims_syncWith hids hd,
      claimedLast_append_singleton]
    simp only [ih, lands_append_singleton hd]
    constructor
    · rintro (⟨h, hc⟩ | ⟨h, hscope, old, ⟨r, hr, hid, hdr, hl⟩ | hl⟩ |
        ⟨h, ⟨r, hr, hid, hdr, hl⟩ | hl, hc⟩)
      · exact .inr (.inl ⟨h, hc⟩)
      · exact .inl ⟨r, hr, hid, hdr, .inl ⟨hid.trans h, hscope, old, hl⟩⟩
      · exact absurd h (hne old hl)
      · exact .inl ⟨r, hr, hid, hdr, .inr ⟨fun he => h (hid.symm.trans he), hl, hc⟩⟩
      · exact .inr (.inr ⟨hl, hc⟩)
    · rintro (⟨r, hr, hid, hdr, ⟨h, hscope, old, hl⟩ | ⟨h, hl, hc⟩⟩ | ⟨h, hc⟩ | ⟨hl, hc⟩)
      · exact .inr (.inl ⟨hid.symm.trans h, hscope, old, .inl ⟨r, hr, hid, hdr, hl⟩⟩)
      · exact .inr (.inr ⟨fun he => h (hid.trans he), .inl ⟨r, hr, hid, hdr, hl⟩, hc⟩)
      · exact .inl ⟨h, hc⟩
      · exact .inr (.inr ⟨hne scope hl, .inr hl, hc⟩)

/-! ### Uniqueness after a sync -/

/-- The marks of stored rows end up apart from each other, and from the marks that new rows
claim. -/
structure MarksSettle (s : Store) (ds : List Definition) : Prop where
  apart : ∀ a ∈ s.rows, a.isDefault = true → ∀ b ∈ s.rows, b.isDefault = true → ∀ scope,
    s.Lands ds a scope → s.Lands ds b scope → a = b
  unclaimed : ∀ r ∈ s.rows, r.isDefault = true → ∀ scope, s.Lands ds r scope →
    ∀ d ∈ ds, ¬ s.Claims scope d

/-- Of the definitions that claim a scope one comes last. -/
theorem exists_claimedLast {scope : String} (hd : d ∈ ds) (hc : s.Claims scope d) :
    ∃ id, s.ClaimedLast ds id scope := by
  induction ds using List.reverseRecOn with
  | nil => exact nomatch hd
  | append_singleton ds e ih =>
    by_cases he : s.Claims scope e
    · exact ⟨e.id, claimedLast_append_singleton.mpr (.inl ⟨rfl, he⟩)⟩
    · rcases List.mem_append.mp hd with hd | hd
      · obtain ⟨id, h⟩ := ih hd
        exact ⟨id, claimedLast_append_singleton.mpr (.inr ⟨h, he⟩)⟩
      · rw [List.mem_singleton.mp hd] at hc
        exact absurd hc he

/-- A scope is claimed last by one definition. -/
theorem ClaimedLast.unique {id id' scope : String} (h : s.ClaimedLast ds id scope)
    (h' : s.ClaimedLast ds id' scope) : id = id' := by
  induction ds using List.reverseRecOn with
  | nil =>
    obtain ⟨before, d, after, hcut, -⟩ := h
    simp at hcut
  | append_singleton ds d ih =>
    rcases claimedLast_append_singleton.mp h with ⟨hid, hc⟩ | ⟨h, hc⟩
    · rcases claimedLast_append_singleton.mp h' with ⟨hid', -⟩ | ⟨-, hc'⟩
      · exact hid.trans hid'.symm
      · exact absurd hc hc'
    · rcases claimedLast_append_singleton.mp h' with ⟨-, hc'⟩ | ⟨h', -⟩
      · exact absurd hc' hc
      · exact ih h h'

/-- Two default rows of one scope are one row. -/
theorem SingleDefaults.eq_of_scope_eq (hs : s.SingleDefaults) {a b : TemplateRow} (ha : a ∈ s.rows)
    (hb : b ∈ s.rows) (hda : a.isDefault = true) (hdb : b.isDefault = true)
    (hscope : a.scope = b.scope) : a = b := by
  have hsymm : Std.Symm fun a b : TemplateRow =>
      a.isDefault = true → b.isDefault = true → a.scope ≠ b.scope :=
    ⟨fun a b h hb ha => (h ha hb).symm⟩
  by_contra hne
  exact hs.apart.forall ha hb hne hda hdb hscope

/-- With unique ids, one default for each scope means that all rows that hold a mark are one row. -/
theorem singleDefaults_iff_holds (hids : s.UniqueIds) :
    s.SingleDefaults ↔ (∀ scope id id', s.Holds id scope → s.Holds id' scope → id = id') ∧
      ∀ r ∈ s.rows, r.isDefault = true → r.isActive = true := by
  constructor
  · refine fun h => ⟨?_, h.active⟩
    rintro scope _ _ ⟨a, ha, rfl, hsa, hda⟩ ⟨b, hb, rfl, hsb, hdb⟩
    rw [h.eq_of_scope_eq ha hb hda hdb (hsa.trans hsb.symm)]
  · rintro ⟨hone, hactive⟩
    refine ⟨hids.pairwise.imp_of_mem fun {a b} ha hb hne hda hdb hscope => hne ?_, hactive⟩
    exact hone b.scope a.id b.id ⟨a, ha, rfl, hscope, hda⟩ ⟨b, hb, rfl, rfl, hdb⟩

/-- A sync never leaves an inactive default. -/
theorem active_syncOne (hids : s.UniqueIds) (d : Definition) (report : SyncReport)
    (h : ∀ r ∈ s.rows, r.isDefault = true → r.isActive = true) :
    ∀ r ∈ (syncOne d report s).2.rows, r.isDefault = true → r.isActive = true := by
  cases hf : s.find? d.id with
  | none =>
    rw [syncOne_rows_of_none hf]
    intro r hr hdr
    rcases List.mem_append.mp hr with hr | hr
    · unfold vacated at hr
      split at hr
      · exact active_clearDefaults h _ none r hr hdr
      · exact h r hr hdr
    · rw [List.mem_singleton.mp hr]
      rfl
  | some r =>
    rw [syncOne_rows_of_some hids hf]
    intro x hx hdx
    obtain ⟨y, hy, rfl⟩ := List.mem_map.mp hx
    obtain ⟨-, hd, ha⟩ := rewritten_marks s d y
    rw [ha]
    exact h y hy (hd ▸ hdx)

/-- A sync leaves no inactive default. -/
theorem active_syncWith (hids : s.UniqueIds) (ds : List Definition)
    (h : ∀ r ∈ s.rows, r.isDefault = true → r.isActive = true) :
    ∀ r ∈ (s.syncWith ds).2.rows, r.isDefault = true → r.isActive = true := by
  induction ds using List.reverseRecOn with
  | nil => exact h
  | append_singleton ds d ih =>
    rw [syncWith_append_singleton]
    exact active_syncOne (hids.syncWith ds) d _ ih

/-- A sync with definitions of distinct ids keeps one default for each scope exactly when the marks
of the stored rows settle: no two of them land in one scope, and none lands in a scope that a new
definition claims. A sync with the files of a directory is a sync with the definitions in them. -/
theorem syncWith_singleDefaults_iff (hids : s.UniqueIds) (hs : s.SingleDefaults)
    (hds : (ds.map Definition.id).Nodup) :
    ((s.syncWith ds).2.SingleDefaults ↔ s.MarksSettle ds) ∧
      ∀ files, Definition.ofFiles files = .ok ds → (s.sync files).2 = (s.syncWith ds).2 := by
  refine ⟨?_, fun files h => by unfold sync; rw [h]⟩
  rw [singleDefaults_iff_holds (hids.syncWith ds)]
  simp only [holds_syncWith hids hds]
  constructor
  · rintro ⟨hone, -⟩
    refine ⟨fun a ha hda b hb hdb scope hla hlb => ?_, fun r hr hdr scope hl d hd hc => ?_⟩
    · exact hids.eq_of_id_eq ha hb
        (hone scope a.id b.id (.inl ⟨a, ha, rfl, hda, hla⟩) (.inl ⟨b, hb, rfl, hdb, hlb⟩))
    · obtain ⟨id, hlast⟩ := exists_claimedLast hd hc
      have hid := hone scope r.id id (.inl ⟨r, hr, rfl, hdr, hl⟩) (.inr hlast)
      -- a definition that claims a scope is about no stored row
      obtain ⟨before, e, after, -, he, hce, -⟩ := hlast
      exact find?_eq_none_iff.mp hce.1 r hr (hid.trans he)
  · rintro ⟨hapart, hunclaimed⟩
    refine ⟨?_, active_syncWith hids ds hs.active⟩
    rintro scope id id' (⟨a, ha, rfl, hda, hla⟩ | hla) (⟨b, hb, rfl, hdb, hlb⟩ | hlb)
    · rw [hapart a ha hda b hb hdb scope hla hlb]
    · obtain ⟨before, e, after, rfl, -, hc, -⟩ := hlb
      exact absurd hc (hunclaimed a ha hda scope hla e (by simp))
    · obtain ⟨before, e, after, rfl, -, hc, -⟩ := hla
      exact absurd hc (hunclaimed b hb hdb scope hlb e (by simp))
    · exact hla.unique hlb

/-! ### Two default templates -/

/-- A default template of a scope. -/
def defaultDefinition (id scope : String) : Definition where
  id := id
  content := { name := id, scope := scope }
  isDefault := true

/-- Two templates, each the default of its scope. -/
def twoDefaults : Store :=
  (Store.syncWith {} [defaultDefinition "a" "quotation", defaultDefinition "b" "invoice"]).2

def exchange : List Definition :=
  [defaultDefinition "a" "invoice", defaultDefinition "b" "quotation"]

/-- Definitions that exchange the scopes of the two templates exchange their marks. -/
theorem twoDefaults_exchanged :
    twoDefaults.UniqueIds ∧ twoDefaults.SingleDefaults ∧
      (exchange.map Definition.id).Nodup ∧ twoDefaults.MarksSettle exchange := by
  have hids : twoDefaults.UniqueIds := by decide +kernel
  have hs : twoDefaults.SingleDefaults := by decide +kernel
  refine ⟨hids, hs, by decide, ?_⟩
  exact (syncWith_singleDefaults_iff hids hs (by decide)).1.mp (by decide +kernel)

/-- A file with a default template of a scope. -/
def defaultFile (id scope : String) : TextFile where
  path := id ++ ".yaml"
  text := "name: " ++ id ++ "\nscope: " ++ scope ++ "\nis_default: true\n"

/-- Files bring the two templates into an empty store. A file that then moves one of them to the
scope of the other leaves that scope with two defaults. -/
theorem twoDefaults_collide :
    ((Store.sync {} [defaultFile "a" "quotation"]).2.sync [defaultFile "b" "invoice"]).2.rows =
        twoDefaults.rows ∧
      twoDefaults.UniqueIds ∧ twoDefaults.SingleDefaults ∧
      (Definition.ofFiles [defaultFile "a" "invoice"]).toOption.map (·.map Definition.id) =
        some ["a"] ∧
      ¬ (twoDefaults.sync [defaultFile "a" "invoice"]).2.SingleDefaults :=
  ⟨by decide +kernel, by decide +kernel, by decide +kernel, by decide +kernel, by decide +kernel⟩

end QuotationPress.Store
