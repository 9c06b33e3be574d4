import QuotationPress.Proofs.Store.ReadBack
import QuotationPress.Proofs.Template.Fixed
import QuotationPress.Proofs.Value.Openings

/-!
# What is read from a row is settled

Nothing in what is read is generated, decoded or left out a second time. `TemplateElement.Settled`
says so of one element, `TemplateRow.settled_of_readElements` that the elements of every row are
like that, and `TemplateRow.readElements_settled` that they are read as they are once they have been
written.
-/

namespace QuotationPress

/-! ### Settled elements -/

namespace TemplateElement

/-- An element in which there is nothing left to generate or to decode. -/
structure Settled (e : TemplateElement) : Prop where
  id : e.id ≠ ""
  type : e.type ≠ ""
  decoded : decodedValue e.content = e.content
  json : e.IsJson
  extra : (Value.obj e.extra).IsJson
  foreign : ∀ x ∈ e.extra, x.1 ∉ fieldNames

end TemplateElement

theorem Value.IsJson.put {fs : Fields} (json : (Value.obj fs).IsJson) (key : String) {v : Value}
    (hv : v.IsJson) : (Value.obj (fs.put key v)).IsJson := by
  cases json with
  | obj distinct values =>
    exact .obj (Fields.nodup_put distinct key v) (Fields.values_put values key hv)

theorem Value.isTruthy_orElse (v : Value) {w : Value} (h : w.isTruthy = true) :
    (v.orElse w).isTruthy = true := by
  unfold orElse
  split
  · next given => exact given
  · exact h

namespace StoredElement

theorem positionalId_ne_empty (rowId : String) (index : Nat) : positionalId rowId index ≠ "" := by
  intro empty
  have chars := congrArg String.toList empty
  simp [positionalId] at chars

/-- Completing an element leaves a JSON value. -/
theorem isJson_completed {fs gs : Fields} (json : (Value.obj fs).IsJson) {rowId : String}
    {index : Nat} (completes : completed rowId index fs = .ok gs) : (Value.obj gs).IsJson := by
  obtain ⟨type, -, completes⟩ := Outcome.bind_eq_ok.mp completes
  have typed := json.put "type" (Value.IsJson.str type)
  rw [← Except.ok.inj completes]
  split
  · exact typed
  · exact typed.put "id" (Value.IsJson.str _)

/-- An element that is read from what has been completed is settled. -/
theorem settled_of_completed {fs gs : Fields} (json : (Value.obj fs).IsJson) {rowId : String}
    {index : Nat} (completes : completed rowId index fs = .ok gs) {name : String}
    {e : TemplateElement} (read : TemplateElement.check name (.obj gs) = .good e) : e.Settled := by
  have jsonCompleted := isJson_completed json completes
  obtain ⟨tag, gs', htag, completes', type, id, -⟩ := completed_entries json rowId index
  obtain rfl : gs = gs' := Except.ok.inj (completes.symm.trans completes')
  obtain ⟨hid, htype, -, -⟩ := TemplateElement.reads_of_ofFields read
  have fixed := TemplateElement.fixed_of_check read
  have all := TemplateElement.all_of_check isSort_isJson jsonCompleted read
  refine ⟨?_, ?_, fixed.decoded, all.isJson, all.extra, fixed.foreign⟩
  · -- the name is a text that was given, or the one made up
    obtain ⟨v, found, text⟩ | ⟨missing, -⟩ := Checked.optional_eq_good.mp hid
    · obtain rfl := Option.some.inj (id.symm.trans found)
      split at text
      · next given =>
        rw [Lenient.eq_str_of_text (json.get "id") text] at given
        simpa [Value.isTruthy] using given
      · rw [← Checked.good.inj text]
        exact positionalId_ne_empty rowId index
    · cases id.symm.trans missing
  · obtain ⟨v, found, text⟩ := Checked.required_eq_good.mp htype
    obtain rfl := Option.some.inj (type.symm.trans found)
    rw [← Checked.good.inj text]
    refine Value.text_ne_empty htag fun empty => ?_
    have given := congrArg Value.isTruthy empty
    rw [Value.isTruthy_orElse _ rfl] at given
    cases given

end StoredElement

namespace TemplateElement

variable {e : TemplateElement}

theorem Settled.fixed (h : e.Settled) : e.Fixed := ⟨h.decoded, h.foreign⟩

/-- The fields of a settled element are distinct and of the kinds that JSON has. -/
theorem Settled.isJson_fields (h : e.Settled) : (Value.obj e.fields).IsJson := by
  have config : ((e.config.map Value.obj).getD .null).IsJson := by
    cases given : e.config with
    | none => exact .null
    | some fs => exact h.json.config fs given
  cases h.extra with
  | obj distinct values =>
    refine .obj ?_ ?_
    · -- the known keys are distinct, and no other entry bears one of them
      have keys : e.fields.map Prod.fst = fieldNames ++ e.extra.map Prod.fst := by
        rw [fields, List.map_append]
        rfl
      rw [keys, List.nodup_append]
      refine ⟨by decide, distinct, fun k hk x hx same => ?_⟩
      obtain ⟨y, hy, rfl⟩ := List.mem_map.mp hx
      exact h.foreign y hy (same ▸ hk)
    · rw [fields, List.forall_mem_append]
      refine ⟨?_, values⟩
      simp only [List.forall_mem_cons]
      exact ⟨.str _, .str _, h.json.content, h.json.style, .bool _, config, List.forall_mem_nil _⟩

/-- A settled element is complete. -/
theorem Settled.completed (h : e.Settled) (rowId : String) (index : Nat) :
    StoredElement.completed rowId index e.fields = .ok e.fields := by
  have type : e.fields.get "type" = .str e.type := rfl
  have id : e.fields.get "id" = .str e.id := rfl
  have typed : e.fields.put "type" (.str e.type) = e.fields := rfl
  have named : (Value.str e.id).isTruthy = true := by simp [Value.isTruthy, h.id]
  have tag : ((Value.str e.type).orElse (.str "unknown")).text = .ok e.type := by
    simp [Value.orElse, Value.isTruthy, h.type, Value.text]
  rw [StoredElement.completed, type, tag, Outcome.ok_bind]
  dsimp only
  rw [typed, id, if_pos named]
  rfl

end TemplateElement

/-! ### Lists of settled elements -/

namespace StoredElement

/-- What is normalized are the completed objects among the members of a list. -/
theorem mem_of_normalized {rowId : String} {index : Nat} {vs entries : List Value}
    (h : normalized rowId index vs = .ok entries) {w : Value} (hw : w ∈ entries) :
    ∃ v ∈ vs, ∃ i fs gs, decoded v = .obj fs ∧ completed rowId i fs = .ok gs ∧ w = .obj gs := by
  -- along the list; only objects give an entry
  induction vs generalizing index entries with
  | nil =>
    obtain rfl := Except.ok.inj h
    cases hw
  | cons v rest ih =>
    rw [normalized] at h
    have further {entries : List Value} (h : normalized rowId (index + 1) rest = .ok entries)
        (hw : w ∈ entries) : ∃ u ∈ v :: rest, ∃ i fs gs, decoded u = .obj fs ∧
          completed rowId i fs = .ok gs ∧ w = .obj gs := by
      obtain ⟨u, hu, found⟩ := ih h hw
      exact ⟨u, List.mem_cons_of_mem v hu, found⟩
    split at h
    · next fs decodes =>
      obtain ⟨gs, completes, h⟩ := Outcome.bind_eq_ok.mp h
      obtain ⟨more, hmore, h⟩ := Outcome.bind_eq_ok.mp h
      rw [← Except.ok.inj h] at hw
      obtain rfl | hw := List.mem_cons.mp hw
      · exact ⟨v, List.mem_cons_self, index, fs, gs, decodes, completes, rfl⟩
      · exact further hmore hw
    · exact further h hw

/-- An element that is decoded from a text is a JSON value, as one that needs no decoding is. -/
theorem isJson_decoded {v : Value} (json : v.IsJson) : (decoded v).IsJson := by
  cases json with
  | str s =>
    rw [decoded]
    cases read : Json.read? s with
    | none => exact .str s
    | some w => exact Json.isJson_of_readChars? read
  | null => exact .null
  | bool b => exact .bool b
  | int short => exact .int short
  | float one => exact .float one
  | list items => exact .list items
  | obj distinct values => exact .obj distinct values

variable {es : List TemplateElement}

/-- Settled elements are normalized as they are. -/
theorem normalized_settled (h : ∀ e ∈ es, e.Settled) (rowId : String) (index : Nat) :
    normalized rowId index (es.map TemplateElement.listing) =
      .ok (es.map TemplateElement.listing) := by
  induction es generalizing index with
  | nil => rfl
  | cons e rest ih =>
    rw [List.forall_mem_cons] at h
    have decodes : decoded e.listing = .obj e.fields := rfl
    simp only [List.map_cons, normalized, decodes, h.1.completed, ih h.2]
    rfl

end StoredElement

/-! ### Rows -/

theorem isJson_readEncoded? {s : String} {v : Value} (h : readEncoded? s = some v) : v.IsJson := by
  unfold readEncoded? at h
  split at h
  · cases h
  · exact Json.isJson_of_readChars? h

theorem isJson_columnValue? {s : String} {v : Value} (h : columnValue? s = some v) : v.IsJson := by
  unfold columnValue? at h
  split at h
  · exact isJson_readEncoded? h
  · exact isJson_readEncoded? h

/-- Whatever stands in a column, what is read from it are values of the kinds that JSON has. -/
theorem isJson_columnFields (s : String) : (Value.obj (columnFields s)).IsJson := by
  unfold columnFields
  cases read : columnValue? s with
  | none => exact Value.isJson_nil
  | some v => exact (isJson_columnValue? read).fields

theorem isJson_columnItems (s : String) : ∀ v ∈ columnItems s, v.IsJson := by
  unfold columnItems
  cases read : columnValue? s with
  | none => exact nofun
  | some v =>
    cases isJson_columnValue? read with
    | list items => exact items
    | _ => exact nofun

namespace TemplateRow

variable {r : TemplateRow} {es : List TemplateElement}

/-- Whatever a row holds, the elements that are read from it are settled. -/
theorem settled_of_readElements (h : r.readElements = .ok es) : ∀ e ∈ es, e.Settled := by
  intro e he
  obtain ⟨entries, normal, h⟩ := Outcome.bind_eq_ok.mp h
  have checked := Checked.under_eq_good.mp (Checked.outcome_eq_ok_iff.mp h)
  obtain ⟨_, w, hw, read⟩ := Checked.mem_of_eachFrom_eq_good checked he
  obtain ⟨v, hv, i, fs, gs, decodes, completes, rfl⟩ := StoredElement.mem_of_normalized normal hw
  have json := StoredElement.isJson_decoded (isJson_columnItems r.elements v hv)
  rw [decodes] at json
  exact StoredElement.settled_of_completed json completes read

/-- Settled elements are read from a row into which they have been written. -/
theorem readElements_settled (h : ∀ e ∈ es, e.Settled)
    (written : TemplateBody.elementsText (es.map TemplateElement.fields) = .ok r.elements) :
    r.readElements = .ok es := by
  have json : ∀ fs ∈ es.map TemplateElement.fields, (Value.obj fs).IsJson := by
    intro fs hfs
    obtain ⟨e, he, rfl⟩ := List.mem_map.mp hfs
    exact (h e he).isJson_fields
  have items : columnItems r.elements = es.map TemplateElement.listing := by
    rw [columnItems_elementsText json written, List.map_map]
    rfl
  rw [readElements, items, StoredElement.normalized_settled h, Outcome.ok_bind,
    TemplateElement.eachFrom_fixed fun e he => (h e he).fixed]
  rfl

end TemplateRow

end QuotationPress
