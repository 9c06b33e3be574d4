import QuotationPress.Proofs.Template.Defaults
import QuotationPress.Proofs.Template.Fixed
import QuotationPress.Proofs.Template.Reordering

/-!
# What every step of building a template keeps

`Template.Kept`: the elements are read from their own entries as they are, and all data are of the
kinds that JSON has. Each step has its lemma; `Builder.Reachable.kept` says that this holds of every
template that is built from such data.
-/

namespace QuotationPress

open Value (isSort_isPlain)

/-! ### Elements -/

/-- An element that reading does not change, with data of the kinds that JSON has. -/
structure TemplateElement.Kept (e : TemplateElement) : Prop extends e.Fixed where
  plain : e.All Value.IsPlain

/-- A template with elements that reading does not change and data of the kinds that JSON has. -/
structure Template.Kept (t : Template) : Prop where
  elements : ∀ e ∈ t.elements, e.Kept
  settings : (Value.obj t.settings).IsPlain
  branding : (Value.obj t.branding).IsPlain

namespace TemplateElement

variable {e : TemplateElement}

theorem kept_of_check {name : String} {v : Value} (plain : v.IsPlain) (h : check name v = .good e) :
    e.Kept :=
  ⟨fixed_of_check h, all_of_check isSort_isPlain plain h⟩

theorem Kept.isPlain_fields (h : e.Kept) : (Value.obj e.fields).IsPlain := by
  have config : ((e.config.map Value.obj).getD .null).IsPlain := by
    cases given : e.config with
    | none => exact .null
    | some fs => exact h.plain.config fs given
  rw [Value.isPlain_obj, fields, List.forall_mem_append]
  refine ⟨?_, Value.isPlain_obj.mp h.plain.extra⟩
  simp only [List.forall_mem_cons]
  exact ⟨.str _, .str _, h.plain.content, h.plain.style, .bool _, config, List.forall_mem_nil _⟩

/-- A theme gives an element plain styles. -/
theorem Kept.themed (h : e.Kept) (p : Palette) : (Builder.themed p e).Kept := by
  have style : (Value.obj (e.style.put "fontFamily" (.str p.fontFamily))).IsPlain :=
    .obj (Fields.values_put (Value.isPlain_obj.mp h.plain.style) _ (.str _))
  unfold Builder.themed
  dsimp only
  split
  · refine ⟨⟨h.decoded, h.foreign⟩, h.plain.content, ?_, h.plain.config, h.plain.extra⟩
    exact .obj (Fields.values_put (Value.isPlain_obj.mp style) _ (.str _))
  · exact ⟨⟨h.decoded, h.foreign⟩, h.plain.content, style, h.plain.config, h.plain.extra⟩

end TemplateElement

/-! ### Steps -/

namespace Builder

open TemplateElement (kept_of_check)

variable {b b' : Builder} {es es' : List TemplateElement}

theorem kept_of_readElement {name : String} {v : Value} (plain : v.IsPlain) {e : TemplateElement}
    (h : readElement name v = .ok e) : e.Kept :=
  kept_of_check plain (Checked.outcome_eq_ok_iff.mp h)

theorem kept_of_readElements {n : Nat} {vs : List Value} (plain : ∀ v ∈ vs, v.IsPlain)
    (h : readElements n vs = .ok es) : ∀ e ∈ es, e.Kept := by
  induction vs generalizing n es with
  | nil =>
    obtain rfl := Except.ok.inj h
    exact nofun
  | cons v rest ih =>
    rw [List.forall_mem_cons] at plain
    obtain ⟨e, read, h⟩ := Outcome.bind_eq_ok.mp h
    obtain ⟨more, others, h⟩ := Outcome.bind_eq_ok.mp h
    rw [← Except.ok.inj h, List.forall_mem_cons]
    exact ⟨kept_of_readElement plain.1 read, ih plain.2 others⟩

theorem kept_of_check {issued : Nat} {v : Value} (plain : v.IsPlain) {t : Template}
    (h : Template.check issued v = .good t) : t.Kept := by
  have all := Template.all_of_check isSort_isPlain plain h
  refine ⟨fun e he => ?_, all.settings, all.branding⟩
  obtain ⟨name, x, hx, checked⟩ := Template.mem_of_check isSort_isPlain plain h e he
  exact TemplateElement.kept_of_check hx checked

theorem isPlain_defaultSettings : (Value.obj defaultSettings).IsPlain := by
  simp [Value.IsPlain, defaultSettings, defaultMargins]

/-- A template is created of plain data. -/
theorem create_kept {description : Fields} (plain : (Value.obj description).IsPlain)
    (h : create description = .ok b) : b.template.Kept := by
  -- the settings are the given ones or the defaults
  have described : (Value.obj
      ((description.putNew "settings" (.obj defaultSettings)).erase "elements")).IsPlain := by
    refine isSort_isPlain.filter _ ?_
    unfold Fields.putNew
    split
    · exact plain
    · exact .obj (Fields.values_put (Value.isPlain_obj.mp plain) _ isPlain_defaultSettings)
  obtain ⟨t, read, h⟩ := Outcome.bind_eq_ok.mp h
  have kept := kept_of_check described (Checked.outcome_eq_ok_iff.mp read)
  obtain ⟨members, listed, h⟩ : ∃ members : List Value, (∀ v ∈ members, v.IsPlain) ∧
      (do
        let elements ← readElements 0 members
        return ({ template := { t with elements }, issued := elements.length } : Builder)) =
          Except.ok b := by
    split at h
    · obtain ⟨members, found, h⟩ := Outcome.bind_eq_ok.mp h
      exact ⟨members, (plain.get "elements").members found, h⟩
    · exact ⟨[], nofun, h⟩
  obtain ⟨es, hes, h⟩ := Outcome.bind_eq_ok.mp h
  rw [← Except.ok.inj h]
  exact ⟨kept_of_readElements listed hes, kept.settings, kept.branding⟩

theorem imported_kept {issued : Nat} {data : Fields} (plain : (Value.obj data).IsPlain)
    (h : imported issued data = .ok b) : b.template.Kept := by
  obtain ⟨t, read, h⟩ := Outcome.bind_eq_ok.mp h
  rw [← Except.ok.inj h]
  exact kept_of_check (isSort_isPlain.filter _ plain) (Checked.outcome_eq_ok_iff.mp read)

theorem kept_withElements (h : b.template.Kept) (each : ∀ e ∈ es, e.Kept) :
    (b.withElements es).template.Kept :=
  ⟨each, h.settings, h.branding⟩

theorem isPlain_startContent (kind : Option ElementKind) {v : Value} (plain : v.IsPlain) :
    (startContent kind v).IsPlain := by
  cases plain with
  | null => exact madeOf_defaultContent kind
  | obj values => exact Value.madeOf_overlay (madeOf_defaultContent kind) (.obj values)
  | bool b => exact .bool b
  | int i => exact .int i
  | float h => exact .float h
  | str s => exact .str s
  | list items => exact .list items

theorem isPlain_styleEntriesOf {v : Value} (plain : v.IsPlain) {fs : Fields}
    (h : styleEntriesOf v = .ok fs) :
    (Value.obj fs).IsPlain := by
  unfold styleEntriesOf at h
  split at h
  · exact Except.ok.inj h ▸ plain
  · split at h
    · cases h
    · exact Except.ok.inj h ▸ .obj nofun

/-- The description of a new element is plain: the author's own values and the defaults. -/
theorem isPlain_describe {a : Addition} (given : a.All Value.IsPlain) (b : Builder)
    (kind : Option ElementKind) {style : Fields} (plain : (Value.obj style).IsPlain) :
    (Value.obj (b.describe kind a style)).IsPlain := by
  have described : (Value.obj (Fields.overlay
      [("type", a.type), ("content", startContent kind a.content),
        ("style", .obj (Fields.overlay (defaultStyle kind b.template.theme) style)),
        ("visible", a.visible),
        ("config", a.config)] a.extra)).IsPlain := by
    refine Value.madeOf_overlay (.obj ?_) given.extra
    simp only [List.forall_mem_cons]
    exact ⟨given.type, isPlain_startContent kind given.content,
      Value.madeOf_overlay (madeOf_defaultStyle kind _) plain, given.visible, given.config, nofun⟩
  unfold describe
  split
  · exact described
  · exact .obj (Fields.values_put (Value.isPlain_obj.mp described) _ (.str _))
  · exact described

theorem add_kept (kept : b.template.Kept) {a : Addition} (given : a.All Value.IsPlain)
    (h : b.add a = .ok b') : b'.template.Kept := by
  obtain ⟨kind, -, h⟩ := Outcome.bind_eq_ok.mp h
  obtain ⟨style, hstyle, h⟩ := Outcome.bind_eq_ok.mp h
  obtain ⟨e, read, h⟩ := Outcome.bind_eq_ok.mp h
  rw [← Except.ok.inj h]
  refine kept_withElements kept
    (List.forall_mem_append.mpr ⟨kept.elements, List.forall_mem_singleton.mpr ?_⟩)
  have plain := isPlain_styleEntriesOf given.style hstyle
  exact kept_of_readElement (isPlain_describe given b kind plain) read

theorem updateIn_kept {name id : String} {changes : Fields} (given : (Value.obj changes).IsPlain)
    (kept : ∀ e ∈ es, e.Kept) (h : updateIn name id changes es = .ok es') : ∀ e ∈ es', e.Kept := by
  induction es generalizing es' with
  | nil => cases h
  | cons e rest ih =>
    rw [List.forall_mem_cons] at kept
    rw [updateIn] at h
    split at h
    · obtain ⟨e', read, h⟩ := Outcome.bind_eq_ok.mp h
      rw [← Except.ok.inj h, List.forall_mem_cons]
      have changed := Value.madeOf_overlay kept.1.isPlain_fields given
      exact ⟨kept_of_readElement
        (.obj (Fields.values_put (Value.isPlain_obj.mp changed) _ (.str _))) read, kept.2⟩
    · obtain ⟨rest', others, h⟩ := Outcome.bind_eq_ok.mp h
      rw [← Except.ok.inj h, List.forall_mem_cons]
      exact ⟨kept.1, ih kept.2 others⟩

theorem update_kept (kept : b.template.Kept) {id : String} {changes : Fields}
    (given : (Value.obj changes).IsPlain) (h : b.update id changes = .ok b') :
    b'.template.Kept := by
  obtain ⟨es, updated, h⟩ := Outcome.bind_eq_ok.mp h
  rw [← Except.ok.inj h]
  exact kept_withElements kept (updateIn_kept given kept.elements updated)

theorem remove_kept (kept : b.template.Kept) (id : String) : (b.remove id).template.Kept :=
  kept_withElements kept fun e he => kept.elements e (List.mem_of_mem_filter he)

/-- Reordering brings no new elements. -/
theorem mem_of_mem_reorder {ids : List String} {e : TemplateElement}
    (h : e ∈ (b.reorder ids).template.elements) :
    e ∈ b.template.elements := by
  rw [elements_reorder, List.mem_append, List.mem_filterMap] at h
  obtain ⟨id, -, found⟩ | h := h
  · exact List.mem_reverse.mp (List.mem_of_find?_eq_some found)
  · exact List.mem_of_mem_filter h

theorem reorder_kept (kept : b.template.Kept) (ids : List String) : (b.reorder ids).template.Kept :=
  ⟨fun e he => kept.elements e (mem_of_mem_reorder he), kept.settings, kept.branding⟩

theorem applyTheme_kept (kept : b.template.Kept) {theme : Value} (h : b.applyTheme theme = .ok b') :
    b'.template.Kept := by
  obtain ⟨name, -, h⟩ := Outcome.bind_eq_ok.mp h
  split at h
  · rw [← Except.ok.inj h]
    exact ⟨List.forall_mem_map.mpr fun e he => (kept.elements e he).themed _, kept.settings,
      kept.branding⟩
  · obtain ⟨listing, -, h⟩ := Outcome.bind_eq_ok.mp h
    cases h

/-- Whatever is built from data of the kinds that JSON has, reading does not change. -/
theorem Reachable.kept (reached : b.Reachable Value.IsPlain) : b.template.Kept := by
  induction reached with
  | create given made => exact create_kept given made
  | imported given made => exact imported_kept given made
  | step s _ given made ih =>
    cases s with
    | add a => exact add_kept ih given made
    | update id changes => exact update_kept ih given made
    | remove id => exact Except.ok.inj made ▸ remove_kept ih id
    | reorder ids => exact Except.ok.inj made ▸ reorder_kept ih ids
    | applyTheme theme => exact applyTheme_kept ih made

end Builder

end QuotationPress
