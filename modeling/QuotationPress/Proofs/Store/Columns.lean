import QuotationPress.Proofs.Json.RoundTrip
import QuotationPress.Store.Draft

/-!
# What a column holds is what was written into it

`columnItems_elementsText` says so of the elements of a template, `columnFields_fieldsText` of its
settings and its branding.
-/

namespace QuotationPress

/-- A text that begins with a mark is not blank. -/
theorem Text.strip_ne_empty {s : String} {c : Char} {more : List Char} (h : s.toList = c :: more)
    (mark : isBlank c = false) : strip s ≠ "" := by
  intro empty
  have trimmed : trim s.toList = [] := by simpa [strip] using congrArg String.toList empty
  rw [h, trim, trimLeft, List.dropWhile_cons_of_neg (by simp [mark]), trimRight,
    List.reverse_eq_nil_iff, List.dropWhile_eq_nil_iff] at trimmed
  simpa [mark] using trimmed c (by simp)

theorem Value.toJson_list_start {xs : List Value} {s : String} (h : (list xs).toJson = .ok s) :
    ∃ more, s.toList = '[' :: more := by
  rw [toJson] at h
  obtain ⟨ts, -, h⟩ := Outcome.bind_eq_ok.mp h
  exact ⟨_, by rw [← Except.ok.inj h]; simp; rfl⟩

theorem Value.toJson_obj_start {fs : Fields} {s : String} (h : (obj fs).toJson = .ok s) :
    ∃ more, s.toList = '\x7b' :: more := by
  rw [toJson] at h
  obtain ⟨ts, -, h⟩ := Outcome.bind_eq_ok.mp h
  exact ⟨_, by rw [← Except.ok.inj h]; simp; rfl⟩

/-- A JSON text that begins with a mark is read back to the value it was written from. -/
theorem readEncoded?_toJson {v : Value} (json : v.IsJson) {s : String} (written : v.toJson = .ok s)
    {c : Char} (start : ∃ more, s.toList = c :: more) (mark : Text.isBlank c = false) :
    readEncoded? s = some v := by
  obtain ⟨more, hs⟩ := start
  obtain ⟨t, ht, reads⟩ := Json.read?_toJson json
  obtain rfl : t = s := Except.ok.inj (ht.symm.trans written)
  rw [readEncoded?, if_neg (Text.strip_ne_empty hs mark), reads]

theorem columnItems_toJson {xs : List Value} (json : (Value.list xs).IsJson) {s : String}
    (written : (Value.list xs).toJson = .ok s) : columnItems s = xs := by
  have read := readEncoded?_toJson json written (Value.toJson_list_start written) rfl
  simp [columnItems, columnValue?, read, Value.items?]

/-! ### The columns of a template -/

theorem isJson_objects {given : List Fields} (json : ∀ fs ∈ given, (Value.obj fs).IsJson) :
    (Value.list (given.map Value.obj)).IsJson :=
  .list fun x hx => by
    obtain ⟨fs, hfs, rfl⟩ := List.mem_map.mp hx
    exact json fs hfs

/-- The elements of a template are read back from the column they were written into. -/
theorem columnItems_elementsText {given : List Fields} (json : ∀ fs ∈ given, (Value.obj fs).IsJson)
    {s : String} (written : TemplateBody.elementsText given = .ok s) :
    columnItems s = given.map Value.obj :=
  columnItems_toJson (isJson_objects json) written

/-- Settings and branding are read back from the columns they were written into. -/
theorem columnFields_fieldsText {fs : Fields} (json : (Value.obj fs).IsJson) {s : String}
    (written : TemplateBody.fieldsText fs = .ok s) : columnFields s = fs := by
  have read := readEncoded?_toJson json written (Value.toJson_obj_start written) rfl
  simp [columnFields, columnValue?, read, Value.fields?]

/-- Elements and settings of the kinds that JSON has can always be written. -/
theorem elementsText_succeeds {given : List Fields} (json : ∀ fs ∈ given, (Value.obj fs).IsJson) :
    ∃ s, TemplateBody.elementsText given = .ok s := by
  obtain ⟨s, hs, -⟩ := Json.read?_toJson (isJson_objects json)
  exact ⟨s, hs⟩

theorem fieldsText_succeeds {fs : Fields} (json : (Value.obj fs).IsJson) :
    ∃ s, TemplateBody.fieldsText fs = .ok s := by
  obtain ⟨s, hs, -⟩ := Json.read?_toJson json
  exact ⟨s, hs⟩

end QuotationPress
