import QuotationPress.Proofs.Json.Records
import QuotationPress.Proofs.Page.Drawn
import QuotationPress.Proofs.Store.ReadBack

/-!
# A template looks stored as it looked before

A body is drawn before it is stored by reading a template from it; once stored it is written as
texts, read from them, and its elements are completed. `Store.create_renderPage` says that both ways
lead to the same page.
-/

namespace QuotationPress

open Outcome (Succeeds)

/-! ### A body, read both ways -/

/-- An entry that holds an object is this object both to a writer and to the page. -/
theorem fields_of_reads {fs : Fields} (json : (Value.obj fs).IsJson) {name : String}
    {given shown : Fields} (draft : Checked.optional .plain fs name [] Lenient.object = .good given)
    (template : Checked.optional .plain fs name [] (fun v => .good (decodedFields v)) =
    .good shown) :
    shown = given ∧ (Value.obj given).IsJson := by
  rw [Checked.optional_eq_good] at draft template
  obtain ⟨v, found, object⟩ | ⟨missing, rfl⟩ := draft
  · have kind := json.of_get? found
    obtain rfl := Lenient.eq_obj_of_object kind object
    obtain ⟨w, found', shown⟩ | ⟨missing, -⟩ := template
    · obtain rfl := Option.some.inj (found.symm.trans found')
      exact ⟨(Checked.good.inj shown).symm, kind⟩
    · -- one reader finds the entry and the other does not
      exact nomatch found.symm.trans missing
  · obtain ⟨w, found, -⟩ | ⟨-, rfl⟩ := template
    · exact nomatch found.symm.trans missing
    · exact ⟨rfl, .obj (by simp) (by simp)⟩

/-- The elements of a template that is read from a body are the checked ones among what a writer of
this body stores. -/
theorem elements_of_reads {fs : Fields} (json : (Value.obj fs).IsJson) {issued : Nat}
    {given : List Fields} {shown : List TemplateElement}
    (draft : Checked.optional .plain fs "elements" [] Lenient.objects = .good given)
    (template : Checked.optional .plain fs "elements" [] (Template.checkElements issued) =
    .good shown) :
    Checked.eachFrom (fun i => TemplateElement.check (freshElementId (issued + i))) 0
        (given.map Value.obj) = .good shown ∧
      ∀ fs ∈ given, (Value.obj fs).IsJson := by
  rw [Checked.optional_eq_good] at draft template
  obtain ⟨v, found, objects⟩ | ⟨missing, rfl⟩ := draft
  · have kind := json.of_get? found
    -- the writer has checked that this is a list of objects, so that both read the same items
    obtain rfl := Lenient.eq_list_of_objects kind objects
    obtain ⟨w, found', shown⟩ | ⟨missing, -⟩ := template
    · obtain rfl := Option.some.inj (found.symm.trans found')
      refine ⟨shown, fun fs hfs => ?_⟩
      cases kind with
      | list items => exact items _ (List.mem_map_of_mem hfs)
    · exact nomatch found.symm.trans missing
  · obtain ⟨w, found, -⟩ | ⟨-, rfl⟩ := template
    · exact nomatch found.symm.trans missing
    · exact ⟨rfl, by simp⟩

/-! ### Elements, as given and as completed -/

theorem Checked.optional_congr {α : Type} {fs fs' : Fields} {name : String}
    (h : fs'.get? name = fs.get? name) (fallback : α) (read : Value → Checked α) :
    optional .plain fs' name fallback read = optional .plain fs name fallback read := by
  simp only [optional, field, Spelling.find?, h]

/-- Two objects that agree in all but name, kind and other entries are read as elements that do. -/
theorem TemplateElement.check_of_agree {fs fs' : Fields} {name name' n tag : String}
    {e : TemplateElement} (read : check name (.obj fs) = .good e)
    (named : Checked.optional .plain fs' "id" name' Lenient.text = .good n)
    (typed : Checked.required .plain fs' "type" Lenient.text = .good tag)
    (others : ∀ key, key ≠ "type" → key ≠ "id" → fs'.get? key = fs.get? key) :
    check name' (.obj fs') =
      .good { e with id := n, type := tag, extra := fs'.filter fun x =>
        !fieldNames.contains x.1 } := by
  have record (name : String) (fs : Fields) : check name (.obj fs) = ofFields name fs := rfl
  rw [record] at read ⊢
  simp only [ofFields, Checked.seq_eq_good, Checked.map_eq_good] at read
  obtain ⟨_, extra,
    ⟨_, config, ⟨_, visible, ⟨_, style, ⟨_, content, ⟨_, given, ⟨name, -, rfl⟩, -, rfl⟩,
    hcontent, rfl⟩, hstyle, rfl⟩, hvisible, rfl⟩, hconfig, rfl⟩, -, rfl⟩ := read
  rw [ofFields, Checked.optional_congr (others "content" (by decide) (by decide)), hcontent,
    Checked.optional_congr (others "style" (by decide) (by decide)), hstyle,
    Checked.optional_congr (others "visible" (by decide) (by decide)), hvisible,
    Checked.optional_congr (others "config" (by decide) (by decide)), hconfig, named, typed]
  rfl

namespace StoredElement

/-- An element without a kind is stored as one of an unknown kind. -/
theorem text_orElse_unknown (tag : String) :
    ((Value.str tag).orElse (.str "unknown")).text = .ok (if tag = "" then "unknown" else tag) := by
  by_cases empty : tag = "" <;> simp [empty, Value.orElse, Value.isTruthy, Value.text]

/-- The name in a completed element is a text, if the one that was given is. -/
theorem named_of_text {fs fs' : Fields} (json : (Value.obj fs).IsJson)
    {fallback name positional : String}
    (given : Checked.optional .plain fs "id" fallback Lenient.text = .good name)
    (id : fs'.get? "id" = some (if (fs.get "id").isTruthy then fs.get "id" else .str positional)) :
    ∃ n, fs'.get? "id" = some (.str n) := by
  rw [id]
  split
  · next truthy =>
    have there := Fields.get?_of_isTruthy truthy
    obtain ⟨v, found, text⟩ | ⟨missing, -⟩ := Checked.optional_eq_good.mp given
    · have kind : v.IsJson := json.of_get? found
      exact ⟨name, by rw [Fields.get_of_get? found, Lenient.eq_str_of_text kind text]⟩
    · exact nomatch there.symm.trans missing
  · exact ⟨_, rfl⟩

/-- An element that is read as it is given is also read once it is completed, and it is drawn as
before. -/
theorem completed_drawn {fs : Fields} (json : (Value.obj fs).IsJson) {name : String}
    {e : TemplateElement} (read : TemplateElement.check name (.obj fs) = .good e) (rowId : String)
    (index : Nat) :
    ∃ fs', completed rowId index fs = .ok fs' ∧
      ∀ name', ∃ e', TemplateElement.check name' (.obj fs') = .good e' ∧ e'.drawn = e.drawn := by
  obtain ⟨tag, fs', htag, completed, type, id, others⟩ := completed_entries json rowId index
  have fields : TemplateElement.ofFields name fs = .good e := read
  obtain ⟨hname, hgiven, -⟩ := TemplateElement.reads_of_ofFields fields
  refine ⟨fs', completed, fun name' => ?_⟩
  obtain ⟨n, hn⟩ := named_of_text json hname id
  obtain ⟨v, found, text⟩ := Checked.required_eq_good.mp hgiven
  obtain rfl := Lenient.eq_str_of_text (json.of_get? found) text
  rw [Fields.get_of_get? found, text_orElse_unknown] at htag
  refine ⟨_, TemplateElement.check_of_agree read (Checked.optional_eq_good.mpr (.inl ⟨_, hn, rfl⟩))
    (Checked.required_eq_good.mpr ⟨_, type, rfl⟩) others, ?_⟩
  rw [← Except.ok.inj htag]
  simp only [TemplateElement.drawn]
  split <;> simp_all

/-- The elements of a list that are read as they are given are read and drawn as before once the
list is normalized. -/
theorem normalized_drawn {given : List Fields} (json : ∀ fs ∈ given, (Value.obj fs).IsJson)
    {names : Nat → String} {i : Nat} {es : List TemplateElement}
    (read : Checked.eachFrom (fun i => TemplateElement.check (names i)) i (given.map Value.obj) =
    .good es)
    (rowId : String) (index : Nat) :
    ∃ entries, normalized rowId index (given.map Value.obj) = .ok entries ∧
      ∀ (names' : Nat → String) (j : Nat), ∃ es',
      Checked.eachFrom (fun i => TemplateElement.check (names' i)) j entries = .good es' ∧
        es'.map TemplateElement.drawn = es.map TemplateElement.drawn := by
  -- along the list; the names and the positions move on with the tail
  induction given generalizing i index es with
  | nil =>
    obtain rfl := Checked.good.inj read
    exact ⟨[], rfl, fun names' j => ⟨[], rfl, rfl⟩⟩
  | cons fs rest ih =>
    rw [List.forall_mem_cons] at json
    obtain ⟨e, more, he, hmore, rfl⟩ := Checked.eachFrom_cons_eq_good.mp read
    obtain ⟨fs', hfs, drawn⟩ := completed_drawn json.1 he rowId index
    obtain ⟨entries, hentries, drawnMore⟩ := ih json.2 hmore (index + 1)
    refine ⟨.obj fs' :: entries, ?_, fun names' j => ?_⟩
    · simp only [List.map_cons, normalized, decoded, hfs, hentries]
      rfl
    · obtain ⟨e', he', same⟩ := drawn (names' j)
      obtain ⟨es', hes', sameMore⟩ := drawnMore names' (j + 1)
      exact ⟨e' :: es', Checked.eachFrom_cons_eq_good.mpr ⟨e', es', he', hes', rfl⟩, by
        rw [List.map_cons, List.map_cons, same, sameMore]⟩

end StoredElement

/-! ### Rows -/

/-- The theme that stands for none has the palette of none. -/
theorem Palette.ofTheme_filledText (theme : String) :
    ofTheme (filledText theme "MODERN") = ofTheme theme := by
  have modern : ofTheme "MODERN" = ofTheme "" := by decide
  unfold filledText
  split
  · next empty => rw [empty, modern]
  · rfl

/-- A writer of a body keeps what it finds in the entries that its page depends on. -/
theorem TemplateDraft.reads_of_ofFields {fs : Fields} {d : TemplateDraft}
    (h : ofFields fs = .good d) :
    Checked.optional .plain fs "theme" "MODERN" Lenient.text = .good d.body.theme ∧
    Checked.optional .plain fs "elements" [] Lenient.objects = .good d.body.elements ∧
    Checked.optional .plain fs "settings" [] Lenient.object = .good d.body.settings ∧
    Checked.optional .plain fs "branding" [] Lenient.object = .good d.body.branding := by
  simp only [ofFields, TemplateBody.ofSomeFields, Checked.seq_eq_good, Checked.map_eq_good] at h
  obtain ⟨_, _,
    ⟨_, _, ⟨body, ⟨_, branding, ⟨_, settings, ⟨_, elements, ⟨_, _, ⟨_, _, ⟨_, theme, ⟨_, _, ⟨_,
    -, rfl⟩, -, rfl⟩, htheme, rfl⟩, -, rfl⟩, -, rfl⟩, helements, rfl⟩, hsettings, rfl⟩,
    hbranding, rfl⟩,
    rfl⟩, -, rfl⟩, -, rfl⟩ := h
  exact ⟨htheme, helements, hsettings, hbranding⟩

/-- A row with the content of a body is read, and its page is that of the template that is read from
the body. -/
theorem TemplateRow.template_renderPage {fs : Fields} (json : (Value.obj fs).IsJson)
    {d : TemplateDraft} {t : Template} (accepted : TemplateDraft.ofFields fs = .good d)
    (read : Template.ofFields 0 fs = .good t) :
    ∃ content, d.body.stored = .ok content ∧ ∀ r : TemplateRow, r.toStoredContent = content →
      ∃ t', r.template = .ok t' ∧
        ∀ (c : RenderContext) (preview : Bool), renderPage t' c preview =
          renderPage t c preview := by
  obtain ⟨theme, elements, settings, branding⟩ := TemplateDraft.reads_of_ofFields accepted
  obtain ⟨theme', elements', settings', branding'⟩ := Template.reads_of_ofFields read
  have sameTheme : t.theme = d.body.theme := Checked.good.inj (theme'.symm.trans theme)
  obtain ⟨checked, jsonElements⟩ := elements_of_reads json elements elements'
  obtain ⟨sameSettings, jsonSettings⟩ := fields_of_reads json settings settings'
  obtain ⟨sameBranding, jsonBranding⟩ := fields_of_reads json branding branding'
  obtain ⟨elementsText, hElements⟩ := elementsText_succeeds jsonElements
  obtain ⟨settingsText, hSettings⟩ := fieldsText_succeeds jsonSettings
  obtain ⟨brandingText, hBranding⟩ := fieldsText_succeeds jsonBranding
  refine ⟨_, by rw [TemplateBody.stored, hElements, hSettings, hBranding]; rfl, fun r content => ?_⟩
  obtain ⟨entries, normalized, drawn⟩ := StoredElement.normalized_drawn jsonElements checked r.id 0
  obtain ⟨shown, hshown, same⟩ := drawn freshElementId 0
  have readElements : r.readElements = .ok shown := by
    rw [TemplateRow.readElements, content, columnItems_elementsText jsonElements hElements,
      normalized, Outcome.ok_bind, Checked.outcome_eq_ok_iff, Checked.under_eq_good, hshown]
  refine ⟨_, by rw [template, readElements]; rfl, ?_⟩
  refine renderPage_congr same ?_ ?_ ?_
  · rw [content, columnFields_fieldsText jsonSettings hSettings, sameSettings]
  · rw [content, columnFields_fieldsText jsonBranding hBranding, sameBranding]
  · rw [content, Palette.ofTheme_filledText, sameTheme]

/-! ### The store -/

namespace Store

variable {s : Store} {r : TemplateRow}

/-- A row is added unless its id is taken. -/
theorem added_of_fresh (fresh : s.find? r.id = none) :
    s.added r = (.ok r, { s.vacated r with rows := (s.vacated r).rows ++ [r] }) := by
  have inserted : (s.vacated r).insert r =
      .ok { s.vacated r with rows := (s.vacated r).rows ++ [r] } := by
    rw [insert, find?_vacated_eq_none.mpr fresh]
    rfl
  have vacating : s.insertNew r = (s.vacated r).insert r := rfl
  rw [added, vacating, inserted]

/-- A row whose id is taken is not added. -/
theorem added_of_taken (taken : s.find? r.id ≠ none) : s.added r = (.error .duplicateRow, s) := by
  have refused : (s.vacated r).insert r = .error .duplicateRow :=
    if_pos (Option.isSome_iff_ne_none.mpr (mt find?_vacated_eq_none.mp taken))
  have vacating : s.insertNew r = (s.vacated r).insert r := rfl
  rw [added, vacating, refused]

theorem not_succeeds_added (taken : s.find? r.id ≠ none) : ¬ Succeeds (s.added r).1 := by
  rw [added_of_taken taken]
  exact Outcome.not_succeeds_error

/-- A row that has been added is found under its id. -/
theorem find?_added (fresh : s.find? r.id = none) : (s.added r).2.find? r.id = some r := by
  rw [added_of_fresh fresh, find?_append rfl,
    show (s.vacated r).rows.find? (·.id = r.id) = none from find?_vacated_eq_none.mpr fresh]
  simp

/-- A body that a template can be read from, and that a writer accepts, is stored unless the id it
gets is taken. The template that is then read from the store has the page that the body has,
whatever is filled in. -/
theorem create_renderPage {body : Value} (json : body.IsJson) {d : TemplateDraft} {t : Template}
    (accepted : TemplateDraft.read? body = .ok d) (read : Template.read? body = .ok t) (s : Store) :
    (Succeeds (s.create d).1 ↔ s.find? s.issueId.1 = none) ∧
    ∀ r, (s.create d).1 = .ok r → ∃ t', (s.create d).2.get? r.id false = .ok (some t') ∧
      ∀ (c : RenderContext) (preview : Bool), renderPage t' c preview = renderPage t c preview := by
  obtain ⟨fs, record, fields⟩ := Checked.andThen_eq_good.mp (Checked.outcome_eq_ok_iff.mp accepted)
  obtain rfl := Lenient.eq_obj_of_record json record
  obtain ⟨content, stored, shown⟩ :=
    TemplateRow.template_renderPage json fields (Checked.outcome_eq_ok_iff.mp read)
  let row := s.issueId.2.newRow s.issueId.1 content d.isDefault d.createdBy
  have created : s.create d = s.issueId.2.added row := by
    simp only [create, stored]
    rfl
  rw [created]
  -- the only thing that can stand in the way is the id
  by_cases fresh : s.issueId.2.find? row.id = none
  · refine ⟨iff_of_true (by rw [added_of_fresh fresh]; exact Outcome.succeeds_ok) fresh,
      fun r hr => ?_⟩
    have same : row = r := by
      rw [added_of_fresh fresh] at hr
      exact Except.ok.inj hr
    obtain ⟨t', ht', pages⟩ := shown row rfl
    refine ⟨t', ?_, pages⟩
    have usable : (s.issueId.2.added row).2.findUsable? row.id false = some row := by
      rw [findUsable?, find?_added fresh]
      rfl
    rw [← same, get?, usable]
    simp only [ht']
    rfl
  · exact ⟨iff_of_false (not_succeeds_added fresh) fresh,
      fun r hr => absurd ⟨r, hr⟩ (not_succeeds_added fresh)⟩

/-- A body without a theme, with an element that has neither a kind nor a name, and a hidden one. -/
def sparseBody : Value :=
  .obj [("name", .str "Offer"), ("theme", .str ""),
    ("elements", .list [
      .obj [("type", .str ""), ("content", .str "Sum: \x7b\x7btotals.total\x7d\x7d")],
      .obj [("id", .str ""), ("visible", .str "no"), ("type", .str "header"), ("note", .null)]]),
    ("settings", .obj [("margins", .obj [("top", .int 30)])])]

theorem isJson_sparseBody : sparseBody.IsJson := by
  refine .obj (by decide) ?_
  simp only [List.forall_mem_cons]
  refine ⟨.str _, .str _, .list ?_, .obj (by decide) ?_, nofun⟩
  · simp only [List.forall_mem_cons]
    refine ⟨.obj (by decide) ?_, .obj (by decide) ?_, nofun⟩ <;> simp only [List.forall_mem_cons]
    · exact ⟨.str _, .str _, nofun⟩
    · exact ⟨.str _, .str _, .str _, .null, nofun⟩
  · refine List.forall_mem_singleton.mpr (.obj (by decide) ?_)
    exact List.forall_mem_singleton.mpr (.int (by decide))

theorem sparseBody_renderPage : ∃ d t r t', TemplateDraft.read? sparseBody = .ok d ∧
    Template.read? sparseBody = .ok t ∧ (create {} d).1 = .ok r ∧
    (create {} d).2.get? r.id false = .ok (some t') ∧
    ∀ (c : RenderContext) (preview : Bool), renderPage t' c preview = renderPage t c preview := by
  obtain ⟨d, accepted⟩ : Succeeds (TemplateDraft.read? sparseBody) := by decide +kernel
  obtain ⟨t, read⟩ : Succeeds (Template.read? sparseBody) := by decide +kernel
  obtain ⟨stored, shown⟩ := create_renderPage isJson_sparseBody accepted read {}
  obtain ⟨r, created⟩ := stored.mpr rfl
  obtain ⟨t', found, pages⟩ := shown r created
  exact ⟨d, t, r, t', accepted, read, created, found, pages⟩

end Store

end QuotationPress
