import QuotationPress.Proofs.Store.SyncDefaults

/-!
# A sync that is repeated with the same files

The content that a sync leaves under an id is that of the last definition with this id
(`contentOf?_syncWith`), so a second sync leaves all contents and marks as they are. Yet it counts a
new version of a row for every definition that does not find its own content there. `sync_again`
says when there is no such definition: when definitions of one id have one content.
-/

namespace QuotationPress

/-- How many rows a report is about. -/
def SyncReport.size (report : SyncReport) : Nat := report.created.length + report.updated.length

namespace Store

variable {s s' s'' : Store} {d : Definition} {ds : List Definition} {id : String} {r : TemplateRow}

/-! ### The content under an id -/

/-- What the row with an id holds. -/
def contentOf? (s : Store) (id : String) : Option StoredContent :=
  (s.find? id).map TemplateRow.toStoredContent

theorem contentOf?_vacated (s : Store) (r : TemplateRow) (id : String) :
    (s.vacated r).contentOf? id = s.contentOf? id := by
  unfold vacated contentOf?
  split
  · rw [find?_clearDefaults, Option.map_map]
    exact congrArg (Option.map · (s.find? id)) (funext (cleared_toStoredContent s r.scope none))
  · rfl

/-- A row that is rewritten by its definition is one version on and dated. -/
theorem find?_updateContent (s : Store) (d : Definition) (id : String) :
    (s.updateContent d).find? id = (s.find? id).map fun r => if r.id = d.id then
      { r with toStoredContent := d.content, version := r.version + 1, updatedAt := s.clock }
      else r :=
  find?_modify s d.id
    (f := fun r =>
      { r with toStoredContent := d.content, version := r.version + 1, updatedAt := s.clock })
    (fun _ => rfl) id

/-- Rewriting a row changes the content under its id only. -/
theorem contentOf?_updateContent (found : s.find? d.id = some r) (id : String) :
    (s.updateContent d).contentOf? id = if d.id = id then some d.content else s.contentOf? id := by
  rw [contentOf?, find?_updateContent]
  by_cases hid : d.id = id
  · subst hid
    rw [if_pos rfl, found, Option.map_some, if_pos (id_of_find? found)]
    rfl
  · rw [if_neg hid, contentOf?]
    cases other : s.find? id with
    | none => rfl
    | some x =>
      have hx : x.id ≠ d.id := fun h => hid (h.symm.trans (id_of_find? other))
      rw [Option.map_some, if_neg hx]

/-- A row under a free id adds its content. -/
theorem contentOf?_append (rows : s'.rows = s.rows ++ [r]) (fresh : s.find? r.id = none)
    (id : String) :
    s'.contentOf? id = if r.id = id then some r.toStoredContent else s.contentOf? id := by
  have found : s'.find? id = (s.find? id).or (if r.id = id then some r else none) :=
    find?_append rows
  rw [contentOf?, contentOf?, found]
  by_cases hid : r.id = id
  · rw [if_pos hid, if_pos hid, ← hid, fresh]
    rfl
  · rw [if_neg hid, if_neg hid, Option.or_none]

/-- A definition leaves its content under its id, and all else as it was. -/
theorem contentOf?_syncOne (d : Definition) (report : SyncReport) (s : Store) (id : String) :
    (syncOne d report s).2.contentOf? id = if d.id = id then some d.content
      else s.contentOf? id := by
  cases found : s.find? d.id with
  | none =>
    have fresh : (s.vacated (s.rowOfDefinition d)).find? (s.rowOfDefinition d).id = none :=
      find?_vacated_eq_none.mpr found
    rw [contentOf?_append (syncOne_rows_of_none found report) fresh, contentOf?_vacated]
    rfl
  | some r =>
    unfold syncOne
    rw [found]
    dsimp only
    by_cases same : r.toStoredContent = d.content
    · rw [if_pos same]
      by_cases hid : d.id = id
      · rw [if_pos hid, contentOf?, ← hid, found, Option.map_some, same]
      · rw [if_neg hid]
    · rw [if_neg same]
      exact contentOf?_updateContent found id

/-- What the last definition with an id says. -/
def lastContent? (ds : List Definition) (id : String) : Option StoredContent :=
  (ds.reverse.find? (·.id = id)).map Definition.content

/-- One more definition has the last word on its id. -/
theorem lastContent?_append_singleton (ds : List Definition) (d : Definition) (id : String) :
    lastContent? (ds ++ [d]) id = if d.id = id then some d.content else lastContent? ds id := by
  unfold lastContent?
  rw [List.reverse_append, List.reverse_singleton, List.singleton_append, List.find?_cons]
  by_cases hid : d.id = id
  · simp [hid]
  · simp [hid]

theorem mem_of_lastContent? {content : StoredContent} (h : lastContent? ds id = some content) :
    ∃ d ∈ ds, d.id = id ∧ d.content = content := by
  obtain ⟨d, found, rfl⟩ := Option.map_eq_some_iff.mp h
  refine ⟨d, List.mem_reverse.mp (List.mem_of_find?_eq_some found), ?_, rfl⟩
  simpa using List.find?_some found

/-- An id that is defined has a last content. -/
theorem lastContent?_isSome (hd : d ∈ ds) : ∃ content, lastContent? ds d.id = some content := by
  unfold lastContent?
  cases found : ds.reverse.find? (·.id = d.id) with
  | none => exact absurd (List.find?_eq_none.mp found d (List.mem_reverse.mpr hd)) (by simp)
  | some e => exact ⟨e.content, rfl⟩

/-- A sync leaves under every id what the last definition with this id says. -/
theorem contentOf?_syncWith (s : Store) (ds : List Definition) (id : String) :
    (s.syncWith ds).2.contentOf? id = (lastContent? ds id).or (s.contentOf? id) := by
  -- from the end, since the last definition decides
  induction ds using List.reverseRecOn with
  | nil => rfl
  | append_singleton ds d ih =>
    rw [syncWith_append_singleton, contentOf?_syncOne, lastContent?_append_singleton, ih]
    by_cases hid : d.id = id
    · rw [if_pos hid, if_pos hid, Option.some_or]
    · rw [if_neg hid, if_neg hid]

/-! ### Definitions of stored rows -/

/-- The rows of the first store are in the second, up to content, version and date of change. -/
def SameMarks (s s' : Store) : Prop :=
  ∀ id r, s.find? id = some r → ∃ content version updatedAt,
    s'.find? id = some { r with toStoredContent := content, version, updatedAt }

theorem SameMarks.refl (s : Store) : s.SameMarks s := fun _ r found =>
  ⟨r.toStoredContent, r.version, r.updatedAt, found⟩

theorem SameMarks.trans (h : s.SameMarks s') (h' : s'.SameMarks s'') : s.SameMarks s'' := by
  intro id r found
  obtain ⟨_, _, _, next⟩ := h id r found
  obtain ⟨content, version, updatedAt, last⟩ := h' id _ next
  exact ⟨content, version, updatedAt, last⟩

theorem SameMarks.find?_ne_none (h : s.SameMarks s') (stored : s.find? id ≠ none) :
    s'.find? id ≠ none := by
  obtain ⟨r, found⟩ := Option.ne_none_iff_exists'.mp stored
  obtain ⟨_, _, _, found⟩ := h id r found
  rw [found]
  exact Option.some_ne_none _

/-- The definition of a stored row changes its content and nothing else, and creates no row. -/
theorem sameMarks_syncOne (stored : s.find? d.id ≠ none) (report : SyncReport) :
    s.SameMarks (syncOne d report s).2 ∧ (syncOne d report s).1.created = report.created := by
  obtain ⟨r, found⟩ := Option.ne_none_iff_exists'.mp stored
  unfold syncOne
  rw [found]
  dsimp only
  split
  · exact ⟨.refl s, rfl⟩
  · refine ⟨fun id x hx => ?_, rfl⟩
    rw [find?_updateContent, hx, Option.map_some]
    split
    · exact ⟨d.content, x.version + 1, s.clock, rfl⟩
    · exact ⟨x.toStoredContent, x.version, x.updatedAt, rfl⟩

/-- Definitions of stored rows change contents and nothing else, and create no row. -/
theorem sameMarks_syncFrom (stored : ∀ d ∈ ds, s.find? d.id ≠ none) (report : SyncReport) :
    s.SameMarks (syncFrom ds report s).2 ∧ (syncFrom ds report s).1.created = report.created := by
  induction ds generalizing report s with
  | nil => exact ⟨.refl s, rfl⟩
  | cons d rest ih =>
    obtain ⟨hd, hrest⟩ := List.forall_mem_cons.mp stored
    obtain ⟨first, created⟩ := sameMarks_syncOne hd report
    have storedThen : ∀ e ∈ rest, (syncOne d report s).2.find? e.id ≠ none :=
      fun e he => first.find?_ne_none (hrest e he)
    obtain ⟨others, createdThen⟩ := ih storedThen (syncOne d report s).1
    exact ⟨first.trans others, createdThen.trans created⟩

/-! ### Syncs that report nothing -/

/-- A definition is reported unless its content is stored, in which case it does nothing. -/
theorem syncOne_cases (d : Definition) (report : SyncReport) (s : Store) :
    (s.contentOf? d.id = some d.content ∧ syncOne d report s = (report, s)) ∨
      (s.contentOf? d.id ≠ some d.content ∧ (syncOne d report s).1.size = report.size + 1) := by
  unfold contentOf? syncOne
  cases found : s.find? d.id with
  | none =>
    refine .inr ⟨Option.some_ne_none _ |>.symm, ?_⟩
    simp only [SyncReport.size, List.length_append, List.length_singleton]
    omega
  | some r =>
    dsimp only [Option.map_some]
    by_cases same : r.toStoredContent = d.content
    · rw [if_pos same]
      exact .inl ⟨congrArg some same, rfl⟩
    · rw [if_neg same]
      refine .inr ⟨fun h => same (Option.some.inj h), ?_⟩
      simp only [SyncReport.size, List.length_append, List.length_singleton]
      omega

/-- Reports only grow. -/
theorem size_le_syncFrom (ds : List Definition) (report : SyncReport) (s : Store) :
    report.size ≤ (syncFrom ds report s).1.size := by
  induction ds generalizing report s with
  | nil => exact Nat.le_refl _
  | cons d rest ih =>
    refine Nat.le_trans ?_ (ih (syncOne d report s).1 (syncOne d report s).2)
    rcases syncOne_cases d report s with ⟨-, same⟩ | ⟨-, more⟩
    · exact Nat.le_of_eq (congrArg (fun x => SyncReport.size x.1) same).symm
    · omega

/-- Definitions do nothing and are not reported exactly if their contents are stored. -/
theorem syncFrom_eq_self_iff {report : SyncReport} :
    syncFrom ds report s = (report, s) ↔ ∀ d ∈ ds, s.contentOf? d.id = some d.content := by
  induction ds with
  | nil => exact iff_of_true rfl fun _ h => nomatch h
  | cons d rest ih =>
    rw [List.forall_mem_cons]
    rcases syncOne_cases d report s with ⟨stored, same⟩ | ⟨fresh, more⟩
    · have next : syncFrom (d :: rest) report s = syncFrom rest report s := by
        rw [syncFrom, same]
      rw [next, ih]
      exact (and_iff_right stored).symm
    · refine iff_of_false (fun same => ?_) fun h => fresh h.1
      -- a report that has grown once does not come back to what it was
      have grows := size_le_syncFrom rest (syncOne d report s).1 (syncOne d report s).2
      have size :
          (syncFrom rest (syncOne d report s).1 (syncOne d report s).2).1.size = report.size :=
        congrArg (fun x => SyncReport.size x.1) same
      omega

/-! ### The second sync -/

/-- After a sync, the contents of its definitions are stored exactly if definitions of one id have
one content. -/
theorem settled_iff (s : Store) (ds : List Definition) :
    (∀ d ∈ ds, (s.syncWith ds).2.contentOf? d.id = some d.content) ↔
      ∀ d ∈ ds, ∀ e ∈ ds, d.id = e.id → d.content = e.content := by
  constructor
  · intro settled d hd e he same
    have stored := settled d hd
    rw [same, settled e he] at stored
    exact (Option.some.inj stored).symm
  · intro agree d hd
    obtain ⟨content, last⟩ := lastContent?_isSome hd
    obtain ⟨e, he, hid, rfl⟩ := mem_of_lastContent? last
    rw [contentOf?_syncWith, last, Option.some_or, agree d hd e he hid.symm]

theorem find?_tick (s : Store) (seconds : Nat) (id : String) :
    (s.tick seconds).find? id = s.find? id :=
  find?_congr rfl id

theorem contentOf?_tick (s : Store) (seconds : Nat) (id : String) :
    (s.tick seconds).contentOf? id = s.contentOf? id := by
  rw [contentOf?, find?_tick, contentOf?]

/-- A second sync leaves the contents of the first. -/
theorem contentOf?_syncWith_again (s : Store) (ds : List Definition) (later : Nat) (id : String) :
    (((s.syncWith ds).2.tick later).syncWith ds).2.contentOf? id =
      (s.syncWith ds).2.contentOf? id := by
  rw [contentOf?_syncWith, contentOf?_tick, contentOf?_syncWith]
  cases lastContent? ds id with
  | none => rfl
  | some content => rfl

/-- The rows of all definitions are there after a sync. -/
theorem find?_syncWith_ne_none (hd : d ∈ ds) : (s.syncWith ds).2.find? d.id ≠ none := by
  intro absent
  obtain ⟨content, last⟩ := lastContent?_isSome hd
  have stored := contentOf?_syncWith s ds d.id
  rw [last, Option.some_or, contentOf?, absent] at stored
  cases stored

/-- A second sync creates no row and leaves every row as it is, up to version and date. -/
theorem syncWith_again (s : Store) (ds : List Definition) (later : Nat) :
    (((s.syncWith ds).2.tick later).syncWith ds).1.created = [] ∧
      ∀ id r, (s.syncWith ds).2.find? id = some r → ∃ version updatedAt,
        (((s.syncWith ds).2.tick later).syncWith ds).2.find? id =
          some { r with version, updatedAt } := by
  have stored : ∀ d ∈ ds, ((s.syncWith ds).2.tick later).find? d.id ≠ none := by
    intro d hd
    rw [find?_tick]
    exact find?_syncWith_ne_none hd
  obtain ⟨marks, created⟩ := sameMarks_syncFrom stored {}
  refine ⟨created, fun id r found => ?_⟩
  obtain ⟨content, version, updatedAt, again⟩ := marks id r ((find?_tick _ later id).trans found)
  -- the second sync may rewrite the row, and ends with the content of the first
  have kept := contentOf?_syncWith_again s ds later id
  rw [contentOf?, contentOf?, found, syncWith, again] at kept
  obtain rfl : content = r.toStoredContent := Option.some.inj kept
  exact ⟨version, updatedAt, again⟩

/-- Files that are listed in their order are read one after the other. -/
theorem ofFiles_of_sorted {files : List TextFile} (data : ∀ f ∈ files, f.isDataFile = true)
    (sorted : files.Pairwise fun a b => TextFile.pathBefore a.parts b.parts = true)
    {found : List (Option Definition)} (read : files.mapM Definition.ofFile? = .ok found) :
    Definition.ofFiles files = .ok found.reduceOption := by
  unfold Definition.ofFiles
  rw [List.filter_eq_self.mpr data]
  dsimp only
  rw [List.mergeSort_of_pairwise sorted, read]
  rfl

theorem sync_of_ofFiles {files : List TextFile} (read : Definition.ofFiles files = .ok ds)
    (s : Store) :
    s.sync files = (.ok (s.syncWith ds).1, (s.syncWith ds).2) := by
  unfold sync
  rw [read]

/-- Once a sync is complete, it can be repeated with the same files at any time, and then creates no
row and leaves every row as it is, up to version and date of change. It reports nothing and leaves
all as it is exactly if those of the definitions that have one id have one content. -/
theorem sync_again {files : List TextFile} {report : SyncReport}
    (completes : (s.sync files).1 = .ok report) (later : Nat) :
    ∃ ds, Definition.ofFiles files = .ok ds ∧
      (∃ updated, (((s.sync files).2.tick later).sync files).1 = .ok { updated }) ∧
      (∀ id r, (s.sync files).2.find? id = some r → ∃ version updatedAt,
        (((s.sync files).2.tick later).sync files).2.find? id =
          some { r with version, updatedAt }) ∧
      (((s.sync files).2.tick later).sync files = (.ok {}, (s.sync files).2.tick later) ↔
        ∀ d ∈ ds, ∀ e ∈ ds, d.id = e.id → d.content = e.content) := by
  cases read : Definition.ofFiles files with
  | error f =>
    rw [sync, read] at completes
    cases completes
  | ok ds =>
    obtain ⟨created, kept⟩ := syncWith_again s ds later
    rw [sync_of_ofFiles read, sync_of_ofFiles read]
    refine ⟨ds, rfl, ⟨(((s.syncWith ds).2.tick later).syncWith ds).1.updated, ?_⟩, kept, ?_⟩
    · rw [← created]
    · rw [← settled_iff s ds]
      -- the tick changes no content, so the condition is about the first sync alone
      have idle : ((s.syncWith ds).2.tick later).syncWith ds = ({}, (s.syncWith ds).2.tick later) ↔
          ∀ d ∈ ds, ((s.syncWith ds).2.tick later).contentOf? d.id = some d.content :=
            syncFrom_eq_self_iff
      simp only [contentOf?_tick] at idle
      rw [← idle, Prod.mk.injEq, Except.ok.injEq, ← Prod.mk.injEq]

deriving instance DecidableEq for Definition

/-- A file in one of several directories, with a template that has a name and nothing else. -/
def offerFile (directory name : String) : TextFile where
  path := directory ++ "/offer.yaml"
  text := "name: " ++ name ++ "\n"

def offerDefinition (name : String) : Definition where
  id := "offer"
  content := { name }
  isDefault := false

def sameOffers : List TextFile := [offerFile "a" "Offer", offerFile "b" "Offer"]

theorem ofFiles_sameOffers :
    Definition.ofFiles sameOffers = .ok [offerDefinition "Offer", offerDefinition "Offer"] := by
  have read : sameOffers.mapM Definition.ofFile? =
      .ok [some (offerDefinition "Offer"), some (offerDefinition "Offer")] := by decide +kernel
  exact ofFiles_of_sorted (by decide +kernel) (by decide +kernel) read

/-- One template in two files: the second sync does nothing. -/
theorem sameOffers_idle : (Store.sync {} sameOffers).1 = .ok { created := ["offer"] } ∧
    ((Store.sync {} sameOffers).2.tick 60).sync sameOffers =
      (.ok {}, (Store.sync {} sameOffers).2.tick 60) := by
  have completes : (Store.sync {} sameOffers).1 = .ok { created := ["offer"] } := by
    rw [sync_of_ofFiles ofFiles_sameOffers]
    decide +kernel
  obtain ⟨ds, read, -, -, idle⟩ := sync_again completes 60
  obtain rfl : [offerDefinition "Offer", offerDefinition "Offer"] = ds :=
    Except.ok.inj (ofFiles_sameOffers.symm.trans read)
  exact ⟨completes, idle.mpr (by decide)⟩

def otherOffers : List TextFile := [offerFile "a" "Offer", offerFile "b" "Letter"]

theorem ofFiles_otherOffers :
    Definition.ofFiles otherOffers = .ok [offerDefinition "Offer", offerDefinition "Letter"] := by
  have read : otherOffers.mapM Definition.ofFile? =
      .ok [some (offerDefinition "Offer"), some (offerDefinition "Letter")] := by decide +kernel
  exact ofFiles_of_sorted (by decide +kernel) (by decide +kernel) read

/-- Two templates of one id: the second sync writes both anew. -/
theorem otherOffers_rewritten :
    (Store.sync {} otherOffers).1 = .ok { created := ["offer"], updated := ["offer"] } ∧
      ((Store.sync {} otherOffers).2.sync otherOffers).1 = .ok { updated := ["offer", "offer"] } ∧
      ((Store.sync {} otherOffers).2.sync otherOffers).2.rows ≠
        (Store.sync {} otherOffers).2.rows := by
  rw [sync_of_ofFiles ofFiles_otherOffers, sync_of_ofFiles ofFiles_otherOffers]
  exact ⟨by decide +kernel, by decide +kernel, by decide +kernel⟩

end Store

end QuotationPress
