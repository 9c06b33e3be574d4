import QuotationPress.Proofs.Store.IssuedIds
import QuotationPress.Proofs.Store.Settled

/-!
# A copy looks as what it is a copy of

The elements of a row are named after it where they have no name, so a copy has others;
`StoredElement.normalized_elsewhere` says that they are drawn alike. `Store.duplicate_renderPage`: a
copy is one more row, unless its id is taken, and its page is that of its source.
-/

namespace QuotationPress

open Outcome (Succeeds)

/-! ### Elements in another row -/

namespace StoredElement

/-- What is completed and read in one row can be completed and read in another, and is drawn as
there. -/
theorem completed_elsewhere {fs gs : Fields} (json : (Value.obj fs).IsJson) {rowId : String}
    {index : Nat} (completes : completed rowId index fs = .ok gs) {name : String}
    {e : TemplateElement} (read : TemplateElement.check name (.obj gs) = .good e)
    (rowId' name' : String) :
    ∃ gs' e', completed rowId' index fs = .ok gs' ∧
      TemplateElement.check name' (.obj gs') = .good e' ∧
      e'.drawn = e.drawn := by
  obtain ⟨tag, gs₁, htag, completes₁, type, id, others⟩ := completed_entries json rowId index
  obtain rfl : gs = gs₁ := Except.ok.inj (completes.symm.trans completes₁)
  obtain ⟨tag', gs', htag', completes', type', id', others'⟩ := completed_entries json rowId' index
  obtain rfl : tag = tag' := Except.ok.inj (htag.symm.trans htag')
  have fields : TemplateElement.ofFields name gs = .good e := read
  obtain ⟨hid, htype, -⟩ := TemplateElement.reads_of_ofFields fields
  -- a name that was given is found again, and else one is made up from the row and the position
  obtain ⟨n, hn⟩ : ∃ n, Checked.optional .plain gs' "id" name' Lenient.text = .good n := by
    by_cases given : (fs.get "id").isTruthy
    · rw [if_pos given] at id id'
      obtain ⟨v, found, text⟩ | ⟨missing, -⟩ := Checked.optional_eq_good.mp hid
      · exact ⟨e.id, Checked.optional_eq_good.mpr (.inl ⟨v, id'.trans (id.symm.trans found), text⟩)⟩
      · exact nomatch id.symm.trans missing
    · rw [if_neg given] at id'
      exact ⟨_, Checked.optional_eq_good.mpr (.inl ⟨_, id', rfl⟩)⟩
  have kind : e.type = tag := by
    obtain ⟨v, found, text⟩ := Checked.required_eq_good.mp htype
    obtain rfl := Option.some.inj (type.symm.trans found)
    exact (Checked.good.inj text).symm
  refine ⟨gs', _, completes', TemplateElement.check_of_agree read hn
    (Checked.required_eq_good.mpr ⟨_, type', rfl⟩) (fun key ht hi =>
      (others' key ht hi).trans (others key ht hi).symm),
    ?_⟩
  rw [← kind]
  rfl

/-- The elements of a list that are read in one row are read and drawn as there in another. -/
theorem normalized_elsewhere {vs : List Value} (json : ∀ v ∈ vs, v.IsJson) {rowId : String}
    {index i : Nat} {entries : List Value} (normal : normalized rowId index vs = .ok entries)
    {names : Nat → String} {es : List TemplateElement}
    (read : Checked.eachFrom (fun i => TemplateElement.check (names i)) i entries = .good es)
    (rowId' : String) :
    ∃ entries' es', normalized rowId' index vs = .ok entries' ∧
      Checked.eachFrom (fun i => TemplateElement.check (names i)) i entries' = .good es' ∧
      es'.map TemplateElement.drawn = es.map TemplateElement.drawn := by
  -- along the list; what is no object is left out in both rows
  induction vs generalizing index i entries es with
  | nil => exact ⟨[], es, rfl, Except.ok.inj normal ▸ read, rfl⟩
  | cons v rest ih =>
    rw [List.forall_mem_cons] at json
    rw [normalized] at normal ⊢
    split at normal
    · next fs decodes =>
      obtain ⟨gs, completes, normal⟩ := Outcome.bind_eq_ok.mp normal
      obtain ⟨more, hmore, normal⟩ := Outcome.bind_eq_ok.mp normal
      obtain rfl := Except.ok.inj normal
      obtain ⟨e, es, he, hes, rfl⟩ := Checked.eachFrom_cons_eq_good.mp read
      have object := isJson_decoded json.1
      rw [decodes] at object
      obtain ⟨gs', e', completes', he', same⟩ :=
        completed_elsewhere object completes he rowId' (names i)
      obtain ⟨more', es', hmore', hes', sameMore⟩ := ih json.2 hmore hes
      refine ⟨.obj gs' :: more', e' :: es', ?_,
        Checked.eachFrom_cons_eq_good.mpr ⟨e', es', he', hes', rfl⟩, ?_⟩
      · rw [completes', hmore']
        rfl
      · rw [List.map_cons, List.map_cons, same, sameMore]
    · next other =>
      obtain ⟨entries', es', normal', read', same⟩ := ih json.2 normal read
      exact ⟨entries', es', normal', read', same⟩

end StoredElement

/-! ### Rows -/

/-- A row that holds what another one holds, but for name and description, has the same page. -/
theorem TemplateRow.renderPage_of_content {r : TemplateRow} {t : Template} (h : r.template = .ok t)
    (r' : TemplateRow) (elements : r'.elements = r.elements) (settings : r'.settings = r.settings)
    (branding : r'.branding = r.branding) (theme : r'.theme = r.theme) :
    ∃ t', r'.template = .ok t' ∧
      ∀ (c : RenderContext) (preview : Bool), renderPage t' c preview = renderPage t c preview := by
  obtain ⟨es, read, h⟩ := Outcome.bind_eq_ok.mp h
  obtain ⟨entries, normal, checked⟩ := Outcome.bind_eq_ok.mp read
  obtain ⟨entries', es', normal', checked', same⟩ := StoredElement.normalized_elsewhere
    (isJson_columnItems r.elements) normal
      (Checked.under_eq_good.mp (Checked.outcome_eq_ok_iff.mp checked)) r'.id
  have read' : r'.readElements = .ok es' := by
    rw [readElements, elements, normal', Outcome.ok_bind, Checked.outcome_eq_ok_iff,
      Checked.under_eq_good, checked']
  refine ⟨_, by rw [template, read']; rfl, ?_⟩
  rw [← Except.ok.inj h]
  exact renderPage_congr same (by rw [settings]) (by rw [branding]) (by rw [theme])

/-! ### The store -/

/-- A first version in use by the author of another row, and no default. -/
structure TemplateRow.StartsFrom (copy r : TemplateRow) : Prop where
  version : copy.version = 1
  isActive : copy.isActive = true
  isDefault : copy.isDefault = false
  createdBy : copy.createdBy = r.createdBy

namespace Store

variable {s : Store} {r : TemplateRow}

/-- What a row that may be used gives is read under its id, however many rows there are behind
it. -/
theorem get?_of_findUsable? {id : String} {withInactive : Bool} {t : Template}
    (found : s.findUsable? id withInactive = some r) (converts : r.template = .ok t) {s' : Store}
    {more : List TemplateRow} (rows : s'.rows = s.rows ++ more) :
    s'.get? id withInactive = .ok (some t) := by
  obtain ⟨stored, usable⟩ := Option.filter_eq_some_iff.mp found
  have stored' : s'.find? id = some r := by
    have there : s.rows.find? (·.id = id) = some r := stored
    rw [find?, rows, List.find?_append, there, Option.some_or]
  have found' : s'.findUsable? id withInactive = some r := by
    rw [findUsable?, stored', Option.filter_eq_some_iff]
    exact ⟨rfl, usable⟩
  rw [get?, found']
  simp only [converts]
  rfl

/-- In a store that a run of actions has led to, a template in use that can be read is copied unless
the id of the copy is taken, which only a file can do. The copy is a row behind all others, which
stay as they are; it can be read, and its page is that of its source, whatever is filled in. -/
theorem run_duplicate_renderPage {clock : Moment} {issued : Nat} {acts : List StoreAction}
    (reached : s = run { clock, issued } acts) {id : String} {t : Template}
    (found : s.findUsable? id false = some r) (converts : r.template = .ok t)
    (name : Option String) :
    ((∀ files, .sync files ∈ acts → LeavesIds files) → s.find? s.issueId.1 = none) ∧
    ((∃ copy, (s.duplicate id name).1 = .ok (some copy)) ↔ s.find? s.issueId.1 = none) ∧
    (s.find? s.issueId.1 ≠ none → (s.duplicate id name).2.rows = s.rows) ∧
    ∀ copy, (s.duplicate id name).1 = .ok (some copy) →
      (s.duplicate id name).2.rows = s.rows ++ [copy] ∧ copy.id = s.issueId.1 ∧ copy.StartsFrom r ∧
      (s.duplicate id name).2.get? id false = .ok (some t) ∧
      ∃ t', (s.duplicate id name).2.get? copy.id false = .ok (some t') ∧
        ∀ (c : RenderContext) (preview : Bool), renderPage t' c preview =
          renderPage t c preview := by
  -- only a file brings in an id of the kind that the store issues
  have free (foreign : ∀ files, .sync files ∈ acts → LeavesIds files) :
      s.find? s.issueId.1 = none := by
    have start : IssuedIds { clock, issued } := List.forall_mem_nil _
    exact (reached ▸ issuedIds_run start foreign).fresh
  refine ⟨free, ?_⟩
  rw [duplicate_of_findUsable? found]
  have taken_iff : s.issueId.2.find? (s.copyOf r name).id = s.find? s.issueId.1 := rfl
  by_cases fresh : s.find? s.issueId.1 = none
  · have added := added_of_fresh (taken_iff.trans fresh)
    have rows : (s.issueId.2.added (s.copyOf r name)).2.rows = s.rows ++ [s.copyOf r name] := by
      rw [added]
      rfl
    refine ⟨iff_of_true ⟨s.copyOf r name, by rw [added]; rfl⟩ fresh,
      fun taken => absurd fresh taken,
      fun copy answer => ?_⟩
    obtain rfl : s.copyOf r name = copy := by
      rw [added] at answer
      exact Option.some.inj (Except.ok.inj answer)
    obtain ⟨t', converts', pages⟩ :=
      TemplateRow.renderPage_of_content converts (s.copyOf r name) rfl rfl rfl rfl
    have usable : (s.issueId.2.added (s.copyOf r name)).2.findUsable? (s.copyOf r name).id false =
        some (s.copyOf r name) := by
      rw [findUsable?, find?_added (taken_iff.trans fresh)]
      rfl
    exact ⟨rows, rfl, ⟨rfl, rfl, rfl, rfl⟩, get?_of_findUsable? found converts rows, t',
      get?_of_findUsable? usable converts' (List.append_nil _).symm, pages⟩
  · have refused := added_of_taken (s := s.issueId.2) (r := s.copyOf r name) (taken_iff ▸ fresh)
    rw [refused]
    refine ⟨iff_of_false ?_ fresh, fun _ => rfl, ?_⟩
    · rintro ⟨copy, answer⟩
      cases answer
    · intro copy answer
      cases answer

/-- A template with an element that has no name. -/
def greetingDraft : TemplateDraft :=
  { body :=
      { name := "Offer"
        elements := [[("type", .str "text"), ("content", .str "Dear client")]] } }

def greetingRow : TemplateRow where
  id := "tpl_1"
  name := "Offer"
  elements := "[\x7b\"type\": \"text\", \"content\": \"Dear client\"\x7d]"
  createdAt := storeEpoch
  updatedAt := storeEpoch

/-- The element is named after its row, and so it has another name in the copy. -/
theorem greetingCopy_renderPage : ∃ (s : Store) (copy : TemplateRow) (t t' : Template),
    s = run {} [.edit (.create greetingDraft)] ∧ (s.duplicate "tpl_1" none).1 = .ok (some copy) ∧
    (s.duplicate "tpl_1" none).2.get? "tpl_1" false = .ok (some t) ∧
    (s.duplicate "tpl_1" none).2.get? copy.id false = .ok (some t') ∧
    t.elements.map TemplateElement.id = ["tpl_1-el-0"] ∧
      t'.elements.map TemplateElement.id = ["tpl_2-el-0"] ∧
    ∀ (c : RenderContext) (preview : Bool), renderPage t' c preview = renderPage t c preview := by
  have found :
      (run {} [.edit (.create greetingDraft)]).findUsable? "tpl_1" false = some greetingRow := by
    decide +kernel
  obtain ⟨t, converts⟩ : Succeeds greetingRow.template := by decide +kernel
  obtain ⟨free, copied, -, made⟩ := run_duplicate_renderPage rfl found converts none
  obtain ⟨copy, answer⟩ := copied.mpr (free fun files mem => by simp at mem)
  obtain ⟨rows, id, -, source, t', found', pages⟩ := made copy answer
  refine ⟨_, copy, t, t', rfl, answer, source, found', ?_, ?_, pages⟩
  · have names : (greetingRow.template.toOption.map fun t => t.elements.map TemplateElement.id) =
        some ["tpl_1-el-0"] := by decide +kernel
    rw [converts] at names
    exact Option.some.inj names
  · have names :
      ((((run {} [.edit (.create greetingDraft)]).duplicate "tpl_1" none).2.get? "tpl_2" false
        ).toOption.join.map fun t => t.elements.map TemplateElement.id) = some ["tpl_2-el-0"] := by
          decide +kernel
    have second : (run {} [.edit (.create greetingDraft)]).issueId.1 = "tpl_2" := by decide +kernel
    rw [id, second] at found'
    rw [found'] at names
    exact Option.some.inj names

end Store

end QuotationPress
