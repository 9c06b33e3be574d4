import QuotationPress.Context.RenderContext
import QuotationPress.Element.Checking
import QuotationPress.Proofs.Json.Lenient
import QuotationPress.Proofs.Json.Listing
import QuotationPress.Proofs.Json.Reading

/-!
# Templates and contexts that are made of values of the kinds that JSON has

`Template.isJson_of_read?` and `RenderContext.isJson_of_read?` say that those are which are read
from such values, and `Content.isJson_of_parse?` that the contents of their elements are checked
entry by entry.
-/

namespace QuotationPress

/-! ### Entries -/

theorem Spelling.mem_of_find? {fs : Fields} {sp : Spelling} {name : String} {v : Value}
    (h : sp.find? fs name = some v) : ∃ e ∈ fs, e.2 = v := by
  have member {key : String} (found : fs.get? key = some v) : ∃ e ∈ fs, e.2 = v :=
    ⟨(key, v), Fields.mem_of_get? found, rfl⟩
  cases sp with
  | plain => exact member h
  | camel =>
    obtain there | ⟨-, there⟩ := Option.or_eq_some_iff.mp h
    · exact member there
    · exact member there

theorem Value.IsJson.values {fs : Fields} (json : (Value.obj fs).IsJson) :
    ∀ e ∈ fs, e.2.IsJson := by
  cases json with
  | obj _ values => exact values

/-- What holds of the fallback and of all that is read from values of some sort, holds of a field
that may be left out. -/
theorem Checked.of_optional {α : Type} {P : α → Prop} {Q : Value → Prop} {sp : Spelling}
    {fs : Fields} {name : String} {fallback a : α} {read : Value → Checked α}
    (values : ∀ e ∈ fs, Q e.2) (h : optional sp fs name fallback read = good a)
    (absent : P fallback) (given : ∀ v, Q v → read v = good a → P a) : P a := by
  obtain ⟨v, found, hread⟩ | ⟨-, rfl⟩ := optional_eq_good.mp h
  · obtain ⟨e, he, rfl⟩ := Spelling.mem_of_find? found
    exact given e.2 (values e he) hread
  · exact absent

/-- What is read of an embedded text is JSON. -/
theorem isJson_decodedValue {v : Value} (json : v.IsJson) : (decodedValue v).IsJson := by
  unfold decodedValue
  split
  · next s =>
    dsimp only
    split
    · cases decoded : Json.readChars? (Text.trim s.toList) with
      | none => exact .str s
      | some w => exact Json.isJson_of_readChars? decoded
    · exact .str s
  · exact json

theorem isJson_of_optional_object {sp : Spelling} {fs : Fields} {name : String} {given : Fields}
    (json : (Value.obj fs).IsJson)
    (h : Checked.optional sp fs name [] Lenient.object = .good given) :
    (Value.obj given).IsJson :=
  Checked.of_optional (P := fun given => (Value.obj given).IsJson) json.values h Value.isJson_nil
    fun _ hv h =>
    Lenient.eq_obj_of_object hv h ▸ hv

theorem isJson_filter {fs : Fields} (json : (Value.obj fs).IsJson) (keep : String × Value → Bool) :
    (Value.obj (fs.filter keep)).IsJson := by
  cases json with
  | obj distinct values =>
    exact .obj (distinct.sublist (List.filter_sublist.map _)) fun e he =>
      values e (List.mem_of_mem_filter he)

/-! ### Sorts of values -/

/-- A sort of values that reading stays within. -/
structure Value.IsSort (Q : Value → Prop) : Prop where
  null : Q .null
  nil : Q (.obj [])
  decoded : ∀ {v}, Q v → Q (decodedValue v)
  fields : ∀ {v fs}, v.fields? = some fs → Q v → Q (.obj fs)
  items : ∀ {v xs}, Lenient.list v = .good xs → Q v → ∀ x ∈ xs, Q x
  values : ∀ {fs}, Q (.obj fs) → ∀ e ∈ fs, Q e.2
  filter : ∀ {fs} (keep : String × Value → Bool), Q (.obj fs) → Q (.obj (fs.filter keep))

/-- Values that JSON has are kept by all that the readers of records do. -/
theorem isSort_isJson : Value.IsSort Value.IsJson where
  null := .null
  nil := Value.isJson_nil
  decoded := isJson_decodedValue
  fields found json := by
    have fields := json.fields
    rwa [found] at fields
  items listed json := by
    rw [Lenient.eq_list_of_list json listed] at json
    cases json with
    | list items => exact items
  values := Value.IsJson.values
  filter keep json := isJson_filter json keep

section Sorts

variable {Q : Value → Prop} {fs given : Fields} {sp : Spelling} {name : String} {v : Value}

theorem Value.IsSort.of_record (sort : Value.IsSort Q) {model : String}
    (h : Lenient.record model v = .good fs) (hv : Q v) : Q (.obj fs) := by
  unfold Lenient.record at h
  split at h
  · next found => exact Checked.good.inj h ▸ sort.fields found hv
  · cases h

theorem Value.IsSort.of_optional_decoded (sort : Value.IsSort Q) (values : Q (.obj fs))
    (h : Checked.optional sp fs name [] (fun v => .good (decodedFields v)) = .good given) :
      Q (.obj given) := by
  refine Checked.of_optional (P := fun given => Q (.obj given)) (sort.values values) h sort.nil
    fun v hv h => ?_
  rw [← Checked.good.inj h, decodedFields]
  cases found : (decodedValue v).fields? with
  | none => exact sort.nil
  | some fs => exact sort.fields found (sort.decoded hv)

/-- An element with values of some sort only. -/
structure TemplateElement.All (Q : Value → Prop) (e : TemplateElement) : Prop where
  content : Q e.content
  style : Q (.obj e.style)
  config : ∀ fs ∈ e.config, Q (.obj fs)
  extra : Q (.obj e.extra)

/-- A template with values of some sort only. -/
structure Template.All (Q : Value → Prop) (t : Template) : Prop where
  elements : ∀ e ∈ t.elements, e.All Q
  settings : Q (.obj t.settings)
  branding : Q (.obj t.branding)

/-- An element is read into values of the same sort. -/
theorem TemplateElement.all_of_check (sort : Value.IsSort Q) (hv : Q v) {e : TemplateElement}
    (h : check name v = .good e) : e.All Q := by
  obtain ⟨fs, record, read⟩ := Checked.andThen_eq_good.mp h
  have object := sort.of_record record hv
  simp only [ofFields, Checked.seq_eq_good, Checked.map_eq_good] at read
  obtain ⟨_, _,
    ⟨_, config, ⟨_, _, ⟨_, style, ⟨_, content, ⟨_, _, ⟨_, -, rfl⟩, -, rfl⟩, hcontent, rfl⟩,
    hstyle, rfl⟩, -, rfl⟩, hconfig, rfl⟩, hextra, rfl⟩ := read
  constructor
  · exact Checked.of_optional (sort.values object) hcontent sort.null fun v hv h =>
      Checked.good.inj h ▸ sort.decoded hv
  · exact sort.of_optional_decoded object hstyle
  · refine Checked.of_optional (P := fun config => ∀ fs ∈ config, Q (.obj fs))
      (sort.values object) hconfig
      nofun fun v hv h => ?_
    rw [← Checked.good.inj h]
    exact fun fs found => sort.fields found (sort.decoded hv)
  · exact Checked.good.inj hextra ▸ sort.filter _ object

/-- The elements of a template are read one by one from the members of a list. -/
theorem Template.mem_of_checkElements (sort : Value.IsSort Q) (hv : Q v) {issued : Nat}
    {es : List TemplateElement} (h : checkElements issued v = .good es) :
    ∀ e ∈ es, ∃ name x, Q x ∧ TemplateElement.check name x = .good e := by
  unfold checkElements at h
  split at h
  · obtain rfl := Checked.good.inj h
    exact nofun
  · obtain ⟨xs, listed, each⟩ := Checked.andThen_eq_good.mp h
    intro e he
    obtain ⟨i, x, hx, checked⟩ := Checked.mem_of_eachFrom_eq_good each he
    exact ⟨_, x, sort.items listed (sort.decoded hv) x hx, checked⟩

end Sorts

/-! ### Templates -/

/-- An element with values of the kinds that JSON has only. -/
structure TemplateElement.IsJson (e : TemplateElement) : Prop where
  content : e.content.IsJson
  style : (Value.obj e.style).IsJson
  config : ∀ fs ∈ e.config, (Value.obj fs).IsJson

/-- A template with values of the kinds that JSON has only. -/
structure Template.IsJson (t : Template) : Prop where
  elements : ∀ e ∈ t.elements, e.IsJson
  settings : (Value.obj t.settings).IsJson
  branding : (Value.obj t.branding).IsJson

/-- What the name, the type, the content and the other entries of an element are read from. -/
theorem TemplateElement.reads_of_ofFields {name : String} {fs : Fields} {e : TemplateElement}
    (h : ofFields name fs = .good e) :
    Checked.optional .plain fs "id" name Lenient.text = .good e.id ∧
    Checked.required .plain fs "type" Lenient.text = .good e.type ∧
    Checked.optional .plain fs "content" .null (fun v => .good (decodedValue v)) = .good e.content ∧
    e.extra = fs.filter fun x => !fieldNames.contains x.1 := by
  simp only [ofFields, Checked.seq_eq_good, Checked.map_eq_good] at h
  obtain ⟨_, extra,
    ⟨_, _, ⟨_, _, ⟨_, _, ⟨_, content, ⟨_, type, ⟨_, hid, rfl⟩, htype, rfl⟩, hcontent, rfl⟩,
    -, rfl⟩, -, rfl⟩, -, rfl⟩, hextra, rfl⟩ := h
  exact ⟨hid, htype, hcontent, (Checked.good.inj hextra).symm⟩

theorem TemplateElement.All.isJson {e : TemplateElement} (h : e.All Value.IsJson) : e.IsJson :=
  ⟨h.content, h.style, h.config⟩

namespace Template

/-- What the page of a template depends on comes from these entries of what the template is read
from. -/
theorem reads_of_ofFields {issued : Nat} {fs : Fields} {t : Template}
    (h : ofFields issued fs = .good t) :
    Checked.optional .plain fs "theme" "MODERN" Lenient.text = .good t.theme ∧
    Checked.optional .plain fs "elements" [] (checkElements issued) = .good t.elements ∧
    Checked.optional .plain fs "settings" [] (fun v => .good (decodedFields v)) = .good t.settings ∧
    Checked.optional .plain fs "branding" [] (fun v => .good (decodedFields v)) =
      .good t.branding := by
  simp only [ofFields, Checked.seq_eq_good, Checked.map_eq_good] at h
  obtain ⟨_, _,
    ⟨_, _, ⟨_, _, ⟨_, _, ⟨_, _, ⟨_, _, ⟨_, branding, ⟨_, settings, ⟨_, elements, ⟨_, _, ⟨_, _,
    ⟨_, theme, ⟨_, _, ⟨_, _, ⟨_, -, rfl⟩, -, rfl⟩, -, rfl⟩, htheme, rfl⟩, -, rfl⟩, -, rfl⟩,
    helements, rfl⟩,
    hsettings, rfl⟩, hbranding, rfl⟩, -, rfl⟩, -, rfl⟩, -, rfl⟩, -, rfl⟩, -, rfl⟩, -, rfl⟩ := h
  exact ⟨htheme, helements, hsettings, hbranding⟩

section Sorts

variable {Q : Value → Prop} {v : Value} {issued : Nat} {t : Template}

/-- The elements of a template that is read are read themselves. -/
theorem mem_of_check (sort : Value.IsSort Q) (hv : Q v) (h : check issued v = .good t) :
    ∀ e ∈ t.elements, ∃ name x, Q x ∧ TemplateElement.check name x = .good e := by
  obtain ⟨fs, record, read⟩ := Checked.andThen_eq_good.mp h
  obtain ⟨-, elements, -⟩ := reads_of_ofFields read
  exact Checked.of_optional (P := fun es => ∀ e ∈ es, ∃ name x, Q x ∧
    TemplateElement.check name x = .good e)
    (sort.values (sort.of_record record hv)) elements nofun fun v hv h =>
      mem_of_checkElements sort hv h

/-- So is a template. -/
theorem all_of_check (sort : Value.IsSort Q) (hv : Q v) (h : check issued v = .good t) :
    t.All Q := by
  obtain ⟨fs, record, read⟩ := Checked.andThen_eq_good.mp h
  have object := sort.of_record record hv
  obtain ⟨-, -, settings, branding⟩ := reads_of_ofFields read
  refine ⟨fun e he => ?_, sort.of_optional_decoded object settings,
    sort.of_optional_decoded object branding⟩
  obtain ⟨name, x, hx, checked⟩ := mem_of_check sort hv h e he
  exact TemplateElement.all_of_check sort hx checked

end Sorts

theorem All.isJson {t : Template} (h : t.All Value.IsJson) : t.IsJson :=
  ⟨fun e he => (h.elements e he).isJson, h.settings, h.branding⟩

theorem isJson_of_read? {v : Value} (json : v.IsJson) {t : Template} (h : read? v = .ok t) :
    t.IsJson :=
  (all_of_check isSort_isJson json (Checked.outcome_eq_ok_iff.mp h)).isJson

end Template

/-! ### Contents -/

namespace Content

theorem isJson_of_entries {kind : ElementKind} {v : Value} (json : v.IsJson) {fs : Fields}
    (h : entries kind v = .good fs) : (Value.obj fs).IsJson := by
  cases json with
  | null => exact Checked.good.inj h ▸ Value.isJson_nil
  | str s =>
    rw [← Checked.good.inj h]
    exact .obj (List.nodup_singleton _) (List.forall_mem_singleton.mpr (.str s))
  | obj distinct values => exact Checked.good.inj h ▸ .obj distinct values
  | _ => cases h

theorem isJson_of_parse? {kind : ElementKind} {v : Value} {config : Fields} {c : Content}
    (json : v.IsJson) (given : (Value.obj config).IsJson) (h : parse? kind v config = .ok c) :
    ∃ fs, (Value.obj fs).IsJson ∧ ofFields kind fs = .good c := by
  unfold parse? at h
  split at h
  · obtain ⟨fs, found, checked⟩ := Checked.andThen_eq_good.mp (ofChecked_eq_ok.mp h)
    exact ⟨fs, isJson_of_entries json found, checked⟩
  · split at h
    · next fs found =>
      refine ⟨_, ?_, ofChecked_eq_ok.mp h⟩
      cases isJson_of_entries json found with
      | obj distinct values =>
        cases given with
        | obj _ more => exact Value.isJson_overlay distinct values more
    · cases h

/-- The rows of a table are lists of cells that JSON has. -/
theorem isJson_rows {fs : Fields} (json : (Value.obj fs).IsJson) {c : TableContent}
    (h : TableContent.ofFields fs = .good c) : ∀ row ∈ c.rows, ∀ v ∈ row, v.IsJson := by
  simp only [TableContent.ofFields, Checked.seq_eq_good, Checked.map_eq_good] at h
  obtain ⟨_, _, ⟨_, _, ⟨_, _, ⟨_, _, ⟨_, rows, ⟨_, -, rfl⟩, read, rfl⟩, -, rfl⟩, -, rfl⟩, -, rfl⟩,
      -, rfl⟩ :=
    h
  refine Checked.of_optional (P := fun rows =>
    ∀ row ∈ rows, ∀ v ∈ row, Value.IsJson v) json.values read nofun
    fun v values listed => ?_
  obtain ⟨given, hgiven, each⟩ := Checked.andThen_eq_good.mp listed
  obtain rfl := Lenient.eq_list_of_list values hgiven
  cases values with
  | list items =>
    intro row hrow
    obtain ⟨-, w, hw, hread⟩ := Checked.mem_of_eachFrom_eq_good each hrow
    obtain rfl := Lenient.eq_list_of_list (items w hw) hread
    cases items _ hw with
    | list cells => exact cells

end Content

/-! ### Contexts -/

namespace RenderContext

/-- A context with values of the kinds that JSON has only. -/
def IsJson (c : RenderContext) : Prop := (Value.obj c.fields).IsJson

/-- Client and customer may stand in for each other. -/
theorem IsJson.mapping {c : RenderContext} (json : c.IsJson) : (Value.obj c.mapping).IsJson := by
  cases json with
  | obj distinct values =>
    obtain ⟨company, client, customer, others⟩ := by
      simpa only [fields, List.cons_append, List.forall_mem_cons] using values
    unfold RenderContext.mapping mirrored
    split_ifs
    · exact .obj distinct (by simpa only [fields, List.cons_append, List.forall_mem_cons] using
        ⟨company, customer, customer, others⟩)
    · exact .obj distinct (by simpa only [fields, List.cons_append, List.forall_mem_cons] using
        ⟨company, client, client, others⟩)
    · exact .obj distinct values

/-- A context that is read from JSON is JSON, with its extra entries beside its own. -/
theorem isJson_of_read? {v : Value} (json : v.IsJson) {c : RenderContext} (h : read? v = .ok c) :
    c.IsJson := by
  obtain ⟨fs, record, read⟩ := Checked.andThen_eq_good.mp (Checked.outcome_eq_ok_iff.mp h)
  obtain rfl := Lenient.eq_obj_of_record json record
  simp only [ofFields, Checked.seq_eq_good, Checked.map_eq_good] at read
  obtain ⟨_, extra,
    ⟨_, tax, ⟨_, totals, ⟨_, items, ⟨_, quotation, ⟨_, customer, ⟨_, client, ⟨company,
    hcompany, rfl⟩, hclient, rfl⟩, hcustomer, rfl⟩, hquotation, rfl⟩, hitems, rfl⟩, htotals, rfl⟩,
    htax, rfl⟩,
    hextra, rfl⟩ := read
  -- an extra entry has none of the names of the context's own
  have distinct : ((bucketNames ++ extra.map Prod.fst)).Nodup := by
    rw [← Checked.good.inj hextra]
    refine List.nodup_append.mpr ⟨by decide, ?_, fun bucket hb key hk same => ?_⟩
    · cases isJson_filter json fun e => !bucketNames.contains e.1 with
      | obj distinct values => exact distinct
    · obtain ⟨e, he, rfl⟩ := List.mem_map.mp hk
      simp only [List.mem_filter, Bool.not_eq_true', List.contains_eq_mem,
        decide_eq_false_iff_not] at he
      exact he.2 (same ▸ hb)
  have extraJson : ∀ e ∈ extra, e.2.IsJson := by
    rw [← Checked.good.inj hextra]
    cases isJson_filter json fun e => !bucketNames.contains e.1 with
    | obj distinct values => exact values
  have itemsJson : (Value.list (items.map Value.obj)).IsJson := by
    refine Checked.of_optional (P := fun items =>
      (Value.list (items.map Value.obj)).IsJson) json.values hitems
      (.list nofun) fun v hv h => ?_
    rwa [← Lenient.eq_list_of_objects hv h]
  refine .obj distinct ?_
  simp only [fields, List.forall_mem_append, List.forall_mem_cons]
  exact ⟨⟨isJson_of_optional_object json hcompany, isJson_of_optional_object json hclient,
    isJson_of_optional_object json hcustomer, isJson_of_optional_object json hquotation, itemsJson,
    isJson_of_optional_object json htotals, isJson_of_optional_object json htax, nofun⟩, extraJson⟩

end RenderContext

end QuotationPress
