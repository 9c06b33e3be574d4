import QuotationPress.Proofs.Json.Embedded
import QuotationPress.Proofs.Json.Records

/-!
# Elements that are read from their own entries as they are

`TemplateElement.Fixed` says what such an element has to be like: nothing in it is left to decode,
and no entry of another name is taken for a field. Every element that has been read is one
(`fixed_of_check`), and lists of them are read as they are (`eachFrom_fixed`).
-/

namespace QuotationPress.TemplateElement

/-- An element that reading does not change. -/
structure Fixed (e : TemplateElement) : Prop where
  decoded : decodedValue e.content = e.content
  foreign : ∀ x ∈ e.extra, x.1 ∉ fieldNames

variable {e : TemplateElement} {es : List TemplateElement} {name : String}

theorem fixed_of_ofFields {fs : Fields} (h : ofFields name fs = .good e) : e.Fixed := by
  obtain ⟨-, -, content, extra⟩ := reads_of_ofFields h
  refine ⟨?_, fun x hx => ?_⟩
  · obtain ⟨v, -, decodes⟩ | ⟨-, missing⟩ := Checked.optional_eq_good.mp content
    · rw [← Checked.good.inj decodes, decodedValue_decodedValue]
    · rw [← missing]
      rfl
  · rw [extra] at hx
    simpa using (List.mem_filter.mp hx).2

theorem fixed_of_check {v : Value} (h : check name v = .good e) : e.Fixed := by
  obtain ⟨fs, -, read⟩ := Checked.andThen_eq_good.mp h
  exact fixed_of_ofFields read

/-- A fixed element is read from its own listing. -/
theorem Fixed.check (h : e.Fixed) (name : String) : check name e.listing = .good e := by
  have record : TemplateElement.check name e.listing = ofFields name e.fields := rfl
  -- none of the extra entries has the name of a field
  have extra : (e.fields.filter fun x => !fieldNames.contains x.1) = e.extra := by
    have kept : (e.extra.filter fun x => !fieldNames.contains x.1) = e.extra :=
      List.filter_eq_self.mpr fun x hx => by simpa using h.foreign x hx
    rw [fields, List.filter_append, kept]
    rfl
  have content : Checked.optional .plain e.fields "content" .null
      (fun v => .good (decodedValue v)) = .good e.content :=
    Checked.optional_eq_good.mpr (.inl ⟨_, rfl, congrArg Checked.good h.decoded⟩)
  have config : Checked.optional .plain e.fields "config" none
      (fun v => .good (decodedValue v).fields?) = .good e.config := by
    refine Checked.optional_eq_good.mpr (.inl ⟨_, rfl, congrArg Checked.good ?_⟩)
    cases e.config <;> rfl
  rw [record, ofFields, extra, content, config]
  rfl

theorem eachFrom_fixed (h : ∀ e ∈ es, e.Fixed) (names : Nat → String) (i : Nat) :
    Checked.eachFrom (fun i => TemplateElement.check (names i)) i (es.map listing) = .good es := by
  induction es generalizing i with
  | nil => rfl
  | cons e rest ih =>
    rw [List.forall_mem_cons] at h
    exact Checked.eachFrom_cons_eq_good.mpr ⟨e, rest, h.1.check (names i), ih h.2 (i + 1), rfl⟩

end QuotationPress.TemplateElement
