import QuotationPress.Proofs.Checked
import QuotationPress.Proofs.Json.Listing
import QuotationPress.Proofs.Store.Change
import QuotationPress.Proofs.Store.Columns
import QuotationPress.Store.Query

/-!
# Which rows can be read back

A body is stored with elements of any shape, and an element is looked at only when its row is read.
`ReadsBack` says what an element must be like for that, and `Store.edits_readBack` that after any
run of edits the rows that can be read are those all of whose elements are like that.
-/

namespace QuotationPress

open Outcome (Succeeds)

/-! ### One element -/

/-- What the store can read back: the name of the element, where it has one, is a text, and whether
it is shown can be told. -/
structure ReadsBack (fs : Fields) : Prop where
  id : (fs.get "id").isTruthy = true → (fs.get "id").isText = true
  visible : (fs.get "visible").isNull = true ∨ (Lenient.flag (fs.get "visible")).IsGood

theorem Fields.get?_of_isTruthy {fs : Fields} {key : String} (h : (fs.get key).isTruthy = true) :
    fs.get? key = some (fs.get key) := by
  unfold get at h ⊢
  cases found : fs.get? key with
  | none => simp [found, Value.isTruthy] at h
  | some v => rfl

theorem isGood_text {v : Value} (json : v.IsJson) : (Lenient.text v).IsGood ↔ v.isText = true := by
  cases json <;> simp [Lenient.text, Lenient.textIn?, Value.isText, Value.text?]

/-- An element is read just if its name, its kind and whether it is shown are. -/
theorem isGood_element {name : String} {fs : Fields} :
    (TemplateElement.check name (.obj fs)).IsGood ↔
    (∀ v, fs.get? "id" = some v → (Lenient.text v).IsGood) ∧
    (∃ v, fs.get? "type" = some v ∧ (Lenient.text v).IsGood) ∧
    ∀ v, fs.get? "visible" = some v →
      (if v.isNull then Checked.good true else Lenient.flag v).IsGood := by
  have record : TemplateElement.check name (.obj fs) = TemplateElement.ofFields name fs := rfl
  rw [record]
  simp [TemplateElement.ofFields, Checked.isGood_optional, Checked.isGood_required, Spelling.find?,
    and_assoc]

/-- What can be read back, told by the readers of the two fields. -/
theorem readsBack_iff {fs : Fields} (json : (Value.obj fs).IsJson) : ReadsBack fs ↔
    ((fs.get "id").isTruthy = true → (Lenient.text (fs.get "id")).IsGood) ∧
    ∀ v, fs.get? "visible" = some v →
      (if v.isNull then Checked.good true else Lenient.flag v).IsGood := by
  rw [isGood_text (json.get "id")]
  refine ⟨fun h => ⟨h.id, fun v found => ?_⟩, fun h => ⟨h.1, ?_⟩⟩
  · have visible := h.visible
    rw [Fields.get, found, Option.getD_some] at visible
    split
    · exact Checked.isGood_good
    · next given => exact visible.resolve_left given
  · rw [Fields.get]
    cases found : fs.get? "visible" with
    | none => exact .inl rfl
    | some v =>
      have good := h.2 v found
      rw [Option.getD_some]
      split at good
      · next null => exact .inl null
      · exact .inr good

namespace StoredElement

/-- An element of the kinds that JSON has can be completed. A text for its kind and a name stand in
it then, and all other entries are what they were. -/
theorem completed_entries {fs : Fields} (json : (Value.obj fs).IsJson) (rowId : String)
    (index : Nat) :
    ∃ tag fs', ((fs.get "type").orElse (.str "unknown")).text = .ok tag ∧
      completed rowId index fs = .ok fs' ∧ fs'.get? "type" = some (.str tag) ∧
      fs'.get? "id" = some
        (if (fs.get "id").isTruthy then fs.get "id" else .str (positionalId rowId index)) ∧
      ∀ key, key ≠ "type" → key ≠ "id" → fs'.get? key = fs.get? key := by
  have kind : ((fs.get "type").orElse (.str "unknown")).IsJson := by
    unfold Value.orElse
    split
    · exact json.get "type"
    · exact .str _
  obtain ⟨tag, htag⟩ := kind.succeeds_text
  have id : (fs.put "type" (.str tag)).get "id" = fs.get "id" := by
    rw [Fields.get, Fields.get?_put_of_ne (by decide), Fields.get]
  refine ⟨tag, _, htag, by rw [completed, htag]; rfl, ?_⟩
  rw [id]
  split
  · -- two cases for the name: it was given, or it is made up from row and position
    next given =>
    refine ⟨Fields.get?_put_self .., ?_, fun key type _ => Fields.get?_put_of_ne type _⟩
    rw [Fields.get?_put_of_ne (by decide), Fields.get?_of_isTruthy given]
  · refine ⟨?_, Fields.get?_put_self .., fun key type id => ?_⟩
    · rw [Fields.get?_put_of_ne (by decide), Fields.get?_put_self]
    · rw [Fields.get?_put_of_ne id, Fields.get?_put_of_ne type]

/-- A completed element is read if it reads back. -/
theorem completed_spec {fs : Fields} (json : (Value.obj fs).IsJson) (rowId : String) (index : Nat) :
    ∃ fs', completed rowId index fs = .ok fs' ∧
      ∀ name, (TemplateElement.check name (.obj fs')).IsGood ↔ ReadsBack fs := by
  obtain ⟨tag, fs', -, completed, type, id, others⟩ := completed_entries json rowId index
  refine ⟨fs', completed, fun name => ?_⟩
  rw [isGood_element, readsBack_iff json, type, id, others "visible" (by decide) (by decide)]
  split
  · next given => simp [given, Lenient.text, Lenient.textIn?]
  · next missing => simp [missing, Lenient.text, Lenient.textIn?]

/-- A list of elements is normalized, and read afterwards just if each of them reads back. -/
theorem normalized_spec (rowId : String) {given : List Fields}
    (json : ∀ fs ∈ given, (Value.obj fs).IsJson) (index : Nat) :
    ∃ entries, normalized rowId index (given.map Value.obj) = .ok entries ∧
      ∀ i, (Checked.eachFrom (fun i => TemplateElement.check (freshElementId i)) i entries).IsGood ↔
        ∀ fs ∈ given, ReadsBack fs := by
  induction given generalizing index with
  | nil => exact ⟨[], rfl, fun i => by simp [Checked.eachFrom]⟩
  | cons fs rest ih =>
    rw [List.forall_mem_cons] at json
    obtain ⟨fs', hfs, element⟩ := completed_spec json.1 rowId index
    obtain ⟨entries, hentries, more⟩ := ih json.2 (index + 1)
    refine ⟨.obj fs' :: entries, ?_, fun i => ?_⟩
    · simp only [List.map_cons, normalized, decoded, hfs, hentries]
      rfl
    · rw [Checked.isGood_eachFrom_cons, element, more, List.forall_mem_cons]

end StoredElement

/-- A row is read if and only if each of the elements that were written into it reads back. -/
theorem TemplateRow.succeeds_template_iff {r : TemplateRow} {given : List Fields}
    (json : ∀ fs ∈ given, (Value.obj fs).IsJson)
    (written : TemplateBody.elementsText given = .ok r.elements) :
    Succeeds r.template ↔ ∀ fs ∈ given, ReadsBack fs := by
  obtain ⟨entries, hentries, good⟩ := StoredElement.normalized_spec r.id json 0
  unfold template
  rw [Outcome.succeeds_bind_iff_left fun _ => Outcome.succeeds_pure, readElements,
    columnItems_elementsText json written, hentries, Outcome.ok_bind, Checked.succeeds_outcome,
    Checked.isGood_under, good 0]

/-! ### Runs of edits -/

/-- The lists of elements that an edit brings into the store. -/
inductive StoreEdit.Gives : StoreEdit → List Fields → Prop
  | create (d : TemplateDraft) : Gives (create d) d.body.elements
  | replace (id : String) (d : TemplateReplacement) : Gives (replace id d) d.body.elements
  | patch (id : String) {p : TemplatePatch} {given : List Fields} (h : p.elements = some given) :
    Gives (patch id p) given

/-- The row that an edit answers with. -/
def StoreEdit.answer? : StoreEdit → Store → Option TemplateRow
  | create d, s => (s.create d).1.toOption
  | replace id d, s => (s.replace id d).1.toOption.join
  | patch id p, s => match (s.patch id p).1 with
    | .ok (.updated r) => some r
    | _ => none
  | setDefault id, s => (s.setDefault id).1
  | duplicate id name, s => (s.duplicate id name).1.toOption.join
  | deactivate _, _ => none
  | wait _, _ => none

namespace Store

variable {s : Store} {r x : TemplateRow}

/-! #### The elements of a row, and where they come from -/

theorem elements_of_mem_clearDefaults {scope : String} {keep : Option String}
    (h : x ∈ (s.clearDefaults scope keep).rows) : ∃ y ∈ s.rows, x.elements = y.elements := by
  rw [clearDefaults_rows] at h
  obtain ⟨y, hy, rfl⟩ := List.mem_map.mp h
  exact ⟨y, hy, by rw [cleared_toStoredContent]⟩

theorem elements_of_mem_vacated (h : x ∈ (s.vacated r).rows) :
    ∃ y ∈ s.rows, x.elements = y.elements := by
  unfold vacated at h
  split at h
  · exact elements_of_mem_clearDefaults h
  · exact ⟨x, h, rfl⟩

/-- A row comes in behind the others, which have yielded to it. -/
theorem rows_of_insertNew {s' : Store} (h : s.insertNew r = .ok s') :
    s'.rows = (s.vacated r).rows ++ [r] := by
  have inserted : (s.vacated r).insert r = .ok s' := h
  unfold insert at inserted
  split at inserted
  · cases inserted
  · rw [← Except.ok.inj inserted]

/-- When a row comes in, the other rows hold the elements they held. -/
theorem elements_of_mem_added (h : x ∈ (s.added r).2.rows) :
    (∃ y ∈ s.rows, x.elements = y.elements) ∨ x = r := by
  unfold added at h
  split at h
  · next s' inserted =>
    rw [rows_of_insertNew inserted, List.mem_append, List.mem_singleton] at h
    exact h.imp_left elements_of_mem_vacated
  · exact .inl ⟨x, h, rfl⟩

theorem mem_added (h : (s.added r).1 = .ok x) : x ∈ (s.added r).2.rows := by
  unfold added at h ⊢
  split at h
  · next s' inserted =>
    obtain rfl := Except.ok.inj h
    simp [rows_of_insertNew inserted]
  · cases h

/-- After a revision a row holds the elements it held or those of the revision. -/
theorem elements_of_mem_writeRevision {content : StoredContent} {isDefault isActive : Bool}
    (h : x ∈ (s.writeRevision r content isDefault isActive).2.rows) :
    (∃ y ∈ s.rows, x.elements = y.elements) ∨ x.elements = content.elements := by
  rw [writeRevision_rows] at h
  obtain ⟨y, hy, rfl⟩ := List.mem_map.mp h
  unfold afterRevision
  split_ifs
  · exact .inr rfl
  · exact .inl ⟨y, hy, by rw [cleared_toStoredContent]⟩
  · exact .inl ⟨y, hy, rfl⟩

/-- A revision with the content that the row has already brings nothing new. -/
theorem elements_of_mem_rewrite {isDefault isActive : Bool} (hr : r ∈ s.rows)
    (h : x ∈ (s.writeRevision r r.toStoredContent isDefault isActive).2.rows) :
    ∃ y ∈ s.rows, x.elements = y.elements :=
  (elements_of_mem_writeRevision h).elim (fun old => old) fun same => ⟨r, hr, same⟩

theorem elements_stored {b : TemplateBody} {content : StoredContent} (h : b.stored = .ok content) :
    TemplateBody.elementsText b.elements = .ok content.elements := by
  obtain ⟨text, written, h⟩ := Outcome.bind_eq_ok.mp h
  obtain ⟨settings, -, h⟩ := Outcome.bind_eq_ok.mp h
  obtain ⟨branding, -, h⟩ := Outcome.bind_eq_ok.mp h
  rw [written, ← Except.ok.inj h]

/-- A patch writes the elements that it gives, or those that were there. -/
theorem elements_applied {p : TemplatePatch} {c content : StoredContent}
    (h : p.applied c = .ok content) :
    content.elements = c.elements ∨
      ∃ given, p.elements = some given ∧
      TemplateBody.elementsText given = .ok content.elements := by
  obtain ⟨text, written, h⟩ := Outcome.bind_eq_ok.mp h
  obtain ⟨settings, -, h⟩ := Outcome.bind_eq_ok.mp h
  obtain ⟨branding, -, h⟩ := Outcome.bind_eq_ok.mp h
  rw [← Except.ok.inj h]
  cases elements : p.elements with
  | none =>
    rw [elements] at written
    exact .inl (Except.ok.inj written).symm
  | some given =>
    rw [elements] at written
    exact .inr ⟨given, rfl, written⟩

/-- The copy of a row, under the next id. -/
def copyOf (s : Store) (r : TemplateRow) (name : Option String) : TemplateRow :=
  s.issueId.2.newRow s.issueId.1 (copyContent r.toStoredContent name) false r.createdBy

/-- A copy is a row under the next id, added like one that is created. -/
theorem duplicate_of_findUsable? {id : String} (found : s.findUsable? id false = some r)
    (name : Option String) : s.duplicate id name =
      ((s.issueId.2.added (s.copyOf r name)).1.map some,
        (s.issueId.2.added (s.copyOf r name)).2) := by
  simp only [duplicate, found]
  rw [copyOf]
  rcases added _ _ with ⟨_ | _, s'⟩ <;> rfl

theorem elements_of_mem_create {d : TemplateDraft} (h : x ∈ (s.create d).2.rows) :
    (∃ y ∈ s.rows, x.elements = y.elements) ∨
      TemplateBody.elementsText d.body.elements = .ok x.elements := by
  simp only [create, issueId] at h
  split at h
  · next content stored =>
    refine (elements_of_mem_added h).imp_right fun same => ?_
    rw [elements_stored stored, same]
    rfl
  · exact .inl ⟨x, h, rfl⟩

theorem elements_of_mem_replace {id : String} {d : TemplateReplacement}
    (h : x ∈ (s.replace id d).2.rows) :
    (∃ y ∈ s.rows, x.elements = y.elements) ∨
      TemplateBody.elementsText d.body.elements = .ok x.elements := by
  simp only [replace] at h
  split at h
  · exact .inl ⟨x, h, rfl⟩
  · split at h
    · exact .inl ⟨x, h, rfl⟩
    · next content stored =>
      refine (elements_of_mem_writeRevision h).imp_right fun same => ?_
      rw [elements_stored stored, same]

theorem elements_of_mem_patch {id : String} {p : TemplatePatch} (h : x ∈ (s.patch id p).2.rows) :
    (∃ y ∈ s.rows, x.elements = y.elements) ∨
      ∃ given, p.elements = some given ∧ TemplateBody.elementsText given = .ok x.elements := by
  cases found : s.find? id with
  | none =>
    simp only [patch, patchAmid, found] at h
    exact .inl ⟨x, h, rfl⟩
  | some r =>
    rw [patch_of_find? found] at h
    split at h
    · exact .inl ⟨x, h, rfl⟩
    · simp only [patchRow] at h
      split at h
      · exact .inl ⟨x, h, rfl⟩
      · next content applied =>
        obtain old | same := elements_of_mem_writeRevision h
        · exact .inl old
        · obtain kept | ⟨given, hgiven, written⟩ := elements_applied applied
          · exact .inl ⟨r, mem_of_find? found, same.trans kept⟩
          · exact .inr ⟨given, hgiven, by rw [written, same]⟩

theorem elements_of_mem_setDefault {id : String} (h : x ∈ (s.setDefault id).2.rows) :
    ∃ y ∈ s.rows, x.elements = y.elements := by
  simp only [setDefault] at h
  split at h
  · exact ⟨x, h, rfl⟩
  · next r found =>
    split at h
    · exact elements_of_mem_clearDefaults h
    · exact elements_of_mem_rewrite (mem_of_find? (findUsable?_eq_some found).1) h

theorem elements_of_mem_deactivate {id : String} (h : x ∈ (s.deactivate id).2.rows) :
    ∃ y ∈ s.rows, x.elements = y.elements := by
  simp only [deactivate] at h
  split at h
  · exact ⟨x, h, rfl⟩
  · next r found => exact elements_of_mem_rewrite (mem_of_find? (findUsable?_eq_some found).1) h

theorem elements_of_mem_duplicate {id : String} {name : Option String}
    (h : x ∈ (s.duplicate id name).2.rows) : ∃ y ∈ s.rows, x.elements = y.elements := by
  cases found : s.findUsable? id false with
  | none =>
    simp only [duplicate, found] at h
    exact ⟨x, h, rfl⟩
  | some r =>
    simp only [duplicate_of_findUsable? found] at h
    obtain old | rfl := elements_of_mem_added h
    · exact old
    · exact ⟨r, mem_of_find? (findUsable?_eq_some found).1, rfl⟩

/-- After an edit a row holds what a row held before it, or what the edit gives. -/
theorem elements_apply (s : Store) (e : StoreEdit) (h : x ∈ (e.apply s).rows) :
    (∃ y ∈ s.rows, x.elements = y.elements) ∨
      ∃ given, e.Gives given ∧ TemplateBody.elementsText given = .ok x.elements := by
  cases e with
  | create d => exact (elements_of_mem_create h).imp_right fun written => ⟨_, .create d, written⟩
  | replace id d =>
    exact (elements_of_mem_replace h).imp_right fun written => ⟨_, .replace id d, written⟩
  | patch id p =>
    exact (elements_of_mem_patch h).imp_right fun ⟨given, hgiven, written⟩ =>
      ⟨given, .patch id hgiven, written⟩
  | setDefault id => exact .inl (elements_of_mem_setDefault h)
  | deactivate id => exact .inl (elements_of_mem_deactivate h)
  | duplicate id name => exact .inl (elements_of_mem_duplicate h)
  | wait n => exact .inl ⟨x, h, rfl⟩

/-- After a run of edits a row holds what a row held at its start, or what one of the edits
gives. -/
theorem elements_edits {es : List StoreEdit} (h : x ∈ (s.edits es).rows) :
    (∃ y ∈ s.rows, x.elements = y.elements) ∨
      ∃ e ∈ es, ∃ given, e.Gives given ∧ TemplateBody.elementsText given = .ok x.elements := by
  -- along the run: what the row holds after the rest is traced back to the store behind the first
  -- edit
  induction es generalizing s with
  | nil => exact .inl ⟨x, h, rfl⟩
  | cons e rest ih =>
    obtain ⟨y, hy, same⟩ | ⟨e', he', given⟩ := ih (s := e.apply s) h
    · obtain ⟨z, hz, old⟩ | ⟨given, gives, written⟩ := elements_apply s e hy
      · exact .inl ⟨z, hz, same.trans old⟩
      · exact .inr ⟨e, List.mem_cons_self .., given, gives, by rw [written, same]⟩
    · exact .inr ⟨e', List.mem_cons_of_mem _ he', given⟩

/-! #### What an edit answers with -/

/-- The row that has been revised is in the store. -/
theorem mem_writeRevision {content : StoredContent} {isDefault isActive : Bool}
    (hr : s.find? r.id = some r) : (s.writeRevision r content isDefault isActive).1 ∈
      (s.writeRevision r content isDefault isActive).2.rows := by
  rw [writeRevision_rows]
  refine List.mem_map.mpr ⟨r, mem_of_find? hr, ?_⟩
  rw [afterRevision_of_eq s r content isDefault isActive rfl]
  cases isDefault <;> rfl

theorem mem_create {d : TemplateDraft} (h : (s.create d).1 = .ok x) : x ∈ (s.create d).2.rows := by
  unfold create at h ⊢
  simp only at h ⊢
  split at h
  · exact mem_added h
  · cases h

theorem mem_replace {id : String} {d : TemplateReplacement}
    (h : (s.replace id d).1 = .ok (some x)) :
    x ∈ (s.replace id d).2.rows := by
  unfold replace at h ⊢
  cases found : s.find? id with
  | none => simp [found] at h
  | some r =>
    simp only [found] at h ⊢
    split at h
    · cases h
    · obtain rfl := Option.some.inj (Except.ok.inj h)
      exact mem_writeRevision (by rw [id_of_find? found, found])

theorem mem_patch {id : String} {p : TemplatePatch} (h : (s.patch id p).1 = .ok (.updated x)) :
    x ∈ (s.patch id p).2.rows := by
  cases found : s.find? id with
  | none => simp [patch, patchAmid, found] at h
  | some r =>
    rw [patch_of_find? found] at h ⊢
    split at h
    · cases h
    · next same =>
      rw [if_neg same]
      unfold patchRow at h ⊢
      simp only at h ⊢
      split at h
      · cases h
      · next content applied =>
        simp only at h ⊢
        obtain rfl := Patched.updated.inj (Except.ok.inj h)
        exact mem_writeRevision (by rw [id_of_find? found, found])

theorem mem_setDefault {id : String} (h : (s.setDefault id).1 = some x) :
    x ∈ (s.setDefault id).2.rows := by
  unfold setDefault at h ⊢
  cases found : s.findUsable? id false with
  | none => simp [found] at h
  | some r =>
    obtain ⟨stored, -⟩ := findUsable?_eq_some found
    simp only [found] at h ⊢
    split at h
    · next marked =>
      obtain rfl := Option.some.inj h
      rw [if_pos marked, clearDefaults_rows]
      refine List.mem_map.mpr ⟨r, mem_of_find? stored, ?_⟩
      rw [cleared, if_neg (by simp [losesDefault_keep])]
    · next unmarked =>
      obtain rfl := Option.some.inj h
      rw [if_neg unmarked]
      exact mem_writeRevision stored

theorem mem_duplicate {id : String} {name : Option String}
    (h : (s.duplicate id name).1 = .ok (some x)) :
    x ∈ (s.duplicate id name).2.rows := by
  cases found : s.findUsable? id false with
  | none => simp [duplicate, found] at h
  | some r =>
    rw [duplicate_of_findUsable? found] at h ⊢
    obtain ⟨y, added, same⟩ := Outcome.map_eq_ok.mp h
    rw [← Option.some.inj same]
    exact mem_added added

/-- An edit answers with a row of the store that it leaves. -/
theorem mem_of_answer? {e : StoreEdit} (h : e.answer? s = some x) : x ∈ (e.apply s).rows := by
  have given {y : Outcome TemplateRow} (h : y.toOption = some x) : y = .ok x := by
    cases y <;> simp_all [Except.toOption]
  have found {y : Outcome (Option TemplateRow)} (h : y.toOption.join = some x) :
      y = .ok (some x) := by
    cases y <;> simp_all [Except.toOption]
  -- only a row that has been written, or was there, is answered with
  cases e with
  | create d => exact mem_create (given h)
  | replace id d => exact mem_replace (found h)
  | patch id p =>
    simp only [StoreEdit.answer?] at h
    split at h
    · next r updated => exact mem_patch (by rw [updated, Option.some.inj h])
    · cases h
  | setDefault id => exact mem_setDefault h
  | duplicate id name => exact mem_duplicate (found h)
  | deactivate id => cases h
  | wait n => cases h

/-! ### Reading after a run -/

theorem mem_rows_of_listedRows {f : TemplateFilter} (h : r ∈ s.listedRows f) : r ∈ s.rows := by
  have sorted : r ∈ (s.rows.filter f.passes).mergeSort TemplateRow.listedBefore := by
    unfold listedRows TemplateFilter.page at h
    split at h
    · split at h
      · exact List.mem_of_mem_drop h
      · exact List.mem_of_mem_drop (List.mem_of_mem_take h)
    · exact List.mem_of_mem_drop h
  exact (List.mem_filter.mp (List.mem_mergeSort.mp sorted)).1

/-- Reading one template or many fails on account of a row only. -/
theorem succeeds_reads (h : ∀ r ∈ s.rows, Succeeds r.template) :
    (∀ id withInactive, Succeeds (s.get? id withInactive)) ∧
      ∀ f : TemplateFilter, f.countable = true → Succeeds (s.list f) := by
  refine ⟨fun id withInactive => ?_, fun f countable => ?_⟩
  · unfold get?
    split
    · next r found =>
      exact Outcome.succeeds_map.mpr (h r (mem_of_find? (Option.filter_eq_some_iff.mp found).1))
    · exact Outcome.succeeds_ok
  · rw [list, if_pos countable, Outcome.succeeds_mapM]
    exact fun r hr => h r (mem_rows_of_listedRows hr)

/-- After a run of edits of the empty store every row holds elements that one of the edits has
given, and the row is read if and only if these read back. An edit answers with a row of the store
that it leaves, and reading one template or many fails for no other reason than a row that is not
read. -/
theorem edits_readBack {es : List StoreEdit}
    (json : ∀ e ∈ es, ∀ given, e.Gives given → ∀ fs ∈ given, (Value.obj fs).IsJson) :
    (∀ r ∈ (edits {} es).rows, ∃ e ∈ es, ∃ given, e.Gives given ∧
      TemplateBody.elementsText given = .ok r.elements ∧
      (Succeeds r.template ↔ ∀ fs ∈ given, ReadsBack fs)) ∧
    (∀ e r, StoreEdit.answer? e (edits {} es) = some r → r ∈ (e.apply (edits {} es)).rows) ∧
    ((∀ e ∈ es, ∀ given, e.Gives given → ∀ fs ∈ given, ReadsBack fs) →
      (∀ r ∈ (edits {} es).rows, Succeeds r.template) ∧
      (∀ id withInactive, Succeeds (get? (edits {} es) id withInactive)) ∧
      ∀ f : TemplateFilter, f.countable = true → Succeeds (list (edits {} es) f)) := by
  have rows : ∀ r ∈ (edits {} es).rows, ∃ e ∈ es, ∃ given, e.Gives given ∧
      TemplateBody.elementsText given = .ok r.elements ∧
      (Succeeds r.template ↔ ∀ fs ∈ given, ReadsBack fs) := by
    intro r hr
    obtain ⟨y, hy, -⟩ | ⟨e, he, given, gives, written⟩ := elements_edits hr
    · -- the empty store has no rows
      cases hy
    · exact ⟨e, he, given, gives, written, r.succeeds_template_iff (json e he given gives) written⟩
  refine ⟨rows, fun e r => mem_of_answer?, fun back => ?_⟩
  have all : ∀ r ∈ (edits {} es).rows, Succeeds r.template := by
    intro r hr
    obtain ⟨e, he, given, gives, -, reads⟩ := rows r hr
    exact reads.mpr (back e he given gives)
  exact ⟨all, succeeds_reads all⟩

/-- A template with an element whose kind is a number, and which has no name. -/
def shapedDraft : TemplateDraft :=
  { body := { name := "Offer"
              elements :=
                [[("type", .int 7), ("visible", .str "no"), ("content", .list [.null])]] } }

theorem shapedRows_readBack :
    (edits {} [.create shapedDraft, .duplicate "tpl_1" none]).rows.length = 2 ∧
    ∀ r ∈ (edits {} [.create shapedDraft, .duplicate "tpl_1" none]).rows, Succeeds r.template := by
  have only {P : List Fields → Prop} (h : P shapedDraft.body.elements) :
      ∀ e ∈ [StoreEdit.create shapedDraft, .duplicate "tpl_1" none],
        ∀ given, e.Gives given → P given := by
    rintro e he given gives
    cases gives with
    | create d =>
      obtain rfl : d = shapedDraft := by simpa using he
      exact h
    | replace id d => simp at he
    | patch id elements => simp at he
  have json : ∀ fs ∈ shapedDraft.body.elements, (Value.obj fs).IsJson := by
    refine List.forall_mem_singleton.mpr (.obj (by decide) ?_)
    simp only [List.forall_mem_cons]
    exact ⟨.int (by decide), .str _, .list (List.forall_mem_singleton.mpr .null),
      fun _ h => nomatch h⟩
  have back : ∀ fs ∈ shapedDraft.body.elements, ReadsBack fs :=
    List.forall_mem_singleton.mpr ⟨by decide, .inr ⟨false, rfl⟩⟩
  exact ⟨by decide +kernel, ((edits_readBack (only json)).2.2 (only back)).1⟩

/-- A template with an element whose name is a number. -/
def numberedDraft : TemplateDraft :=
  { body := { name := "Offer", elements := [[("type", .str "text"), ("id", .int 5)]] } }

/-- Its body is accepted and its row is written, and from then on it cannot be read, nor can the
store be listed. -/
theorem numberedRow_unread :
    TemplateDraft.read? (.obj [("name", .str "Offer"),
      ("elements", .list [.obj [("type", .str "text"), ("id", .int 5)]])]) = .ok numberedDraft ∧
    Succeeds (create {} numberedDraft).1 ∧ (create {} numberedDraft).2.rows.length = 1 ∧
    (∀ r ∈ (create {} numberedDraft).2.rows, ¬ Succeeds r.template) ∧
    ¬ Succeeds (get? (create {} numberedDraft).2 "tpl_1" false) ∧
    ¬ Succeeds (list (create {} numberedDraft).2 {}) :=
  ⟨rfl, by decide +kernel, by decide +kernel, by decide +kernel, by decide +kernel,
    by decide +kernel⟩

end Store

end QuotationPress
