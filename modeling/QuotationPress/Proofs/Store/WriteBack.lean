import QuotationPress.Proofs.Store.Settled
import QuotationPress.Proofs.Store.SyncDefaults
import QuotationPress.Proofs.Store.Versions

/-!
# What is read can be written back

A writer who hands in a template as it was read replaces the row by what it holds already
(`Store.replace_ofTemplate`); `Store.run_writeBack` is the statement for the stores that runs of
actions lead to, whatever the texts in the columns of their rows.
-/

namespace QuotationPress

/-! ### Rows and their templates -/

namespace TemplateRow

variable {r : TemplateRow} {t : Template}

/-- The template of a row with the elements that are read from it. -/
def templateWith (r : TemplateRow) (es : List TemplateElement) : Template where
  id := some r.id
  name := r.name
  description := r.description
  theme := filledText r.theme "MODERN"
  category := filledText r.category "quotation"
  scope := filledText r.scope Settings.defaultScope
  elements := es
  settings := columnFields r.settings
  branding := columnFields r.branding
  isDefault := r.isDefault
  isActive := r.isActive
  version := r.version
  createdBy := r.createdBy
  createdAt := some r.createdAt
  updatedAt := some r.updatedAt

/-- A row is read just if its elements are, and then as the template with these elements. -/
theorem template_eq_ok :
    r.template = .ok t ↔ ∃ es, r.readElements = .ok es ∧ r.templateWith es = t := by
  rw [template, Outcome.bind_eq_ok]
  exact exists_congr fun es => and_congr_right fun _ => ⟨Except.ok.inj, congrArg Except.ok⟩

end TemplateRow

theorem filledText_filledText (s fallback : String) :
    filledText (filledText s fallback) fallback = filledText s fallback := by
  unfold filledText
  split <;> simp_all

/-! ### What is written back -/

namespace TemplateReplacement

/-- A template as it was read, handed in to replace itself. -/
def ofTemplate (t : Template) : TemplateReplacement where
  body := {
    name := t.name, description := t.description, theme := t.theme, category := t.category
    scope := t.scope, elements := t.elements.map TemplateElement.fields, settings := t.settings
    branding := t.branding }
  isDefault := t.isDefault
  isActive := t.isActive

/-- A name that is accepted is taken as it is. -/
theorem eq_of_name {s name : String} (h : Lenient.name (.str s) = .good name) : name = s := by
  have sized : (if s.length < 1 then Checked.fault (.tooShort 1)
    else if 128 < s.length then .fault (.tooLong 128) else .good s) = .good name := h
  split at sized
  · cases sized
  · split at sized
    · cases sized
    · exact (Checked.good.inj sized).symm

/-- The elements in a listing are accepted as the objects they are. -/
theorem objects_listing (es : List TemplateElement) :
    Lenient.objects (.list (es.map TemplateElement.listing)) =
      .good (es.map TemplateElement.fields) := by
  have each (i : Nat) :
    Checked.eachFrom (fun _ => Lenient.object) i (es.map TemplateElement.listing) =
      .good (es.map TemplateElement.fields) := by
    induction es generalizing i with
    | nil => rfl
    | cons e rest ih => exact Checked.eachFrom_cons_eq_good.mpr ⟨_, _, rfl, ih (i + 1), rfl⟩
  exact each 0

/-- A template that is accepted in place of itself is taken as it is. -/
theorem eq_of_read?_listing {t : Template} {d : TemplateReplacement} (h : read? t.listing = .ok d) :
    d = ofTemplate t := by
  obtain ⟨fs, record, read⟩ := Checked.andThen_eq_good.mp (Checked.outcome_eq_ok_iff.mp h)
  obtain rfl := Checked.good.inj record
  simp only [ofFields, TemplateBody.ofAllFields, Checked.seq_eq_good, Checked.map_eq_good] at read
  obtain ⟨_, active,
    ⟨_, default, ⟨body, ⟨_, branding, ⟨_, settings, ⟨_, elements, ⟨_, scope, ⟨_, category,
    ⟨_, theme, ⟨_, description, ⟨name, hname, rfl⟩, hdescription, rfl⟩, htheme, rfl⟩,
    hcategory, rfl⟩, hscope, rfl⟩, helements, rfl⟩, hsettings, rfl⟩, hbranding, rfl⟩, rfl⟩,
    hdefault, rfl⟩, hactive, rfl⟩ := read
  obtain ⟨v, found, named⟩ := Checked.required_eq_good.mp hname
  obtain rfl := Option.some.inj found
  obtain rfl := eq_of_name named
  obtain ⟨v, found, objects⟩ := Checked.required_eq_good.mp helements
  obtain rfl := Option.some.inj found
  obtain rfl := Checked.good.inj (objects.symm.trans (objects_listing t.elements))
  obtain rfl : t.description = description := Checked.good.inj hdescription
  obtain rfl : t.theme = theme := Checked.good.inj htheme
  obtain rfl : t.category = category := Checked.good.inj hcategory
  obtain rfl : t.scope = scope := Checked.good.inj hscope
  obtain rfl : t.settings = settings := Checked.good.inj hsettings
  obtain rfl : t.branding = branding := Checked.good.inj hbranding
  obtain rfl : t.isDefault = default := Checked.good.inj hdefault
  obtain rfl : t.isActive = active := Checked.good.inj hactive
  rfl

end TemplateReplacement

/-! ### The store -/

namespace Store

variable {s : Store} {r : TemplateRow} {t : Template}

/-- A template that was read from a row can be stored, and any later version of the row that holds
it reads as this template. -/
theorem stored_ofTemplate (read : r.template = .ok t) :
    ∃ content, (TemplateReplacement.ofTemplate t).body.stored = .ok content ∧
      (s.revision r content t.isDefault t.isActive).template =
        .ok { t with version := t.version + 1, updatedAt := some s.clock } := by
  obtain ⟨es, elements, rfl⟩ := TemplateRow.template_eq_ok.mp read
  -- what was read has nothing left to decode, so that it is written as it is
  have settled := TemplateRow.settled_of_readElements elements
  have json : ∀ fs ∈ es.map TemplateElement.fields, (Value.obj fs).IsJson := by
    intro fs hfs
    obtain ⟨e, he, rfl⟩ := List.mem_map.mp hfs
    exact (settled e he).isJson_fields
  obtain ⟨elementsText, hElements⟩ := elementsText_succeeds json
  obtain ⟨settingsText, hSettings⟩ := fieldsText_succeeds (isJson_columnFields r.settings)
  obtain ⟨brandingText, hBranding⟩ := fieldsText_succeeds (isJson_columnFields r.branding)
  refine ⟨{
    name := r.name, description := r.description, theme := filledText r.theme "MODERN"
    category := filledText r.category "quotation", scope := filledText r.scope Settings.defaultScope
    elements := elementsText, settings := settingsText, branding := brandingText }, ?_, ?_⟩
  · simp only [TemplateBody.stored, TemplateReplacement.ofTemplate, TemplateRow.templateWith,
      hElements, hSettings, hBranding, Outcome.ok_bind]
    rfl
  · refine TemplateRow.template_eq_ok.mpr ⟨es,
      TemplateRow.readElements_settled settled hElements, ?_⟩
    simp only [TemplateRow.templateWith, revision, revised, filledText_filledText,
      columnFields_fieldsText (isJson_columnFields r.settings) hSettings,
      columnFields_fieldsText (isJson_columnFields r.branding) hBranding]

/-- A row that is replaced by what was read from it reads as before, one version on. -/
theorem replace_ofTemplate (unique : s.UniqueIds) (hr : r ∈ s.rows)
    (marks : r.isDefault = true → r.isActive = true) (read : r.template = .ok t) :
    ∃ row, (s.replace r.id (.ofTemplate t)).1 = .ok (some row) ∧
      (s.replace r.id (.ofTemplate t)).2.find? r.id = some row ∧
      row.template = .ok { t with version := t.version + 1, updatedAt := some s.clock } := by
  have found := unique.find?_of_mem hr
  obtain ⟨content, stored, again⟩ := stored_ofTemplate (s := s) read
  -- the mark is written back with the use of the row, and no inactive row has one
  have kept : (t.isDefault && t.isActive) = t.isDefault := by
    obtain ⟨es, -, rfl⟩ := TemplateRow.template_eq_ok.mp read
    cases default : r.isDefault with
    | false => simp [TemplateRow.templateWith, default]
    | true => simp [TemplateRow.templateWith, default, marks default]
  have written : s.replace r.id (.ofTemplate t) =
      (.ok (some (s.writeRevision r content t.isDefault t.isActive).1),
        (s.writeRevision r content t.isDefault t.isActive).2) := by
    have body : (TemplateReplacement.ofTemplate t).isDefault = t.isDefault ∧
      (TemplateReplacement.ofTemplate t).isActive = t.isActive := ⟨rfl, rfl⟩
    simp only [replace, found, stored, body, kept]
  rw [written, writeRevision_fst]
  refine ⟨_, rfl, ?_, again⟩
  rw [find?_writeRevision, found, Option.map_some, afterRevision_of_eq _ _ _ _ _ rfl]

/-! ### Runs -/

/-- Every action keeps the ids of rows apart. -/
theorem UniqueIds.apply (unique : s.UniqueIds) (a : StoreAction) : (a.apply s).UniqueIds := by
  cases a with
  | edit e => exact unique.change (change_apply s e)
  | sync files =>
    show (s.sync files).2.UniqueIds
    unfold sync
    split
    · exact unique.syncWith _
    · exact unique

/-- No action leaves an inactive default. -/
theorem active_apply (unique : s.UniqueIds)
    (marks : ∀ r ∈ s.rows, r.isDefault = true → r.isActive = true) (a : StoreAction) :
    ∀ r ∈ (a.apply s).rows, r.isDefault = true → r.isActive = true := by
  cases a with
  | edit e => exact active_change marks (change_apply s e)
  | sync files =>
    show ∀ r ∈ (s.sync files).2.rows, r.isDefault = true → r.isActive = true
    unfold sync
    split
    · exact active_syncWith unique _ marks
    · exact marks

/-- Ids stay apart and inactive rows stay without the default mark, whatever is done to a store. -/
theorem run_marks (unique : s.UniqueIds)
    (marks : ∀ r ∈ s.rows, r.isDefault = true → r.isActive = true) (acts : List StoreAction) :
    (s.run acts).UniqueIds ∧
      ∀ r ∈ (s.run acts).rows, r.isDefault = true → r.isActive = true := by
  -- along the actions, with both facts at once, since a sync needs the ids for the marks
  induction acts generalizing s with
  | nil => exact ⟨unique, marks⟩
  | cons a rest ih => exact ih (unique.apply a) (active_apply unique marks a)

/-- In a store that any run of actions has led to, every template that can be read and is accepted
in place of itself is replaced by itself: it reads as before, one version on and dated. -/
theorem run_writeBack {start : Store} (unique : start.UniqueIds)
    (marks : ∀ r ∈ start.rows, r.isDefault = true → r.isActive = true) (acts : List StoreAction)
    (hr : r ∈ (start.run acts).rows) (read : r.template = .ok t) {d : TemplateReplacement}
    (accepted : TemplateReplacement.read? t.listing = .ok d) :
    (∃ row, ((start.run acts).replace r.id d).1 = .ok (some row) ∧
      row.template =
        .ok { t with version := t.version + 1, updatedAt := some (start.run acts).clock }) ∧
    ((start.run acts).replace r.id d).2.get? r.id true =
      .ok (some { t with version := t.version + 1, updatedAt := some (start.run acts).clock }) := by
  obtain ⟨uniqueNow, marksNow⟩ := run_marks unique marks acts
  obtain rfl := TemplateReplacement.eq_of_read?_listing accepted
  obtain ⟨row, answered, found, again⟩ := replace_ofTemplate uniqueNow hr (marksNow r hr) read
  refine ⟨⟨row, answered, again⟩, ?_⟩
  have usable :
      ((start.run acts).replace r.id (.ofTemplate t)).2.findUsable? r.id true = some row := by
    rw [findUsable?, found]
    simp
  rw [get?, usable]
  simp only [again]
  rfl

/-- A row without theme and scope, whose elements are one with neither a type nor a name and a
number. -/
def noteRow : TemplateRow where
  id := "tpl_1"
  name := "Note"
  theme := ""
  scope := ""
  elements := "[\x7b\"content\": \"[1, 2]\", \"note\": null\x7d, 5]"
  createdAt := storeEpoch
  updatedAt := storeEpoch

def noteStore : Store := { rows := [noteRow] }

theorem noteRow_writeBack : noteStore.UniqueIds ∧
    (∀ r ∈ noteStore.rows, r.isDefault = true → r.isActive = true) ∧
    noteRow ∈ (noteStore.run [.edit (.wait 60)]).rows ∧
    ∃ t d, noteRow.template = .ok t ∧ TemplateReplacement.read? t.listing = .ok d ∧
      ((noteStore.run [.edit (.wait 60)]).replace "tpl_1" d).2.get? "tpl_1" true =
        .ok (some { t with
          version := t.version + 1
          updatedAt := some (noteStore.run [.edit (.wait 60)]).clock }) := by
  have unique : noteStore.UniqueIds := by decide
  have marks : ∀ r ∈ noteStore.rows, r.isDefault = true → r.isActive = true := by decide
  have inside : noteRow ∈ (noteStore.run [.edit (.wait 60)]).rows := List.mem_singleton_self _
  have accepts :
      Outcome.Succeeds (noteRow.template >>= fun t => TemplateReplacement.read? t.listing) := by
    decide +kernel
  obtain ⟨t, read, d, accepted⟩ := Outcome.succeeds_bind.mp accepts
  exact ⟨unique, marks, inside, t, d, read, accepted,
    (run_writeBack unique marks [.edit (.wait 60)] inside read accepted).2⟩

end Store

end QuotationPress
