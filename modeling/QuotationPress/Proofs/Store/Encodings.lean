import QuotationPress.Proofs.Json.Embedded
import QuotationPress.Proofs.Store.Columns
import QuotationPress.Proofs.Store.Preview
import QuotationPress.Store.Basic

/-!
# Rows of older writers

Older writers have encoded more than they had to: a whole column once more, an element within a
list, an entry of an element. `TemplateRow.template_encoded` says that such a row holds the template
that the plain row holds, or fails as that does.
-/

namespace QuotationPress

/-! ### Three ways to encode too much -/

/-- The entries of an element that are decoded when it is read. -/
def encodedEntries : List String := ["content", "style", "config"]

/-- An entry as it is, or with its list or object in a text. -/
inductive EntryForm : String × Value → String × Value → Prop
  | plain (e : String × Value) : EntryForm e e
  | encoded {key : String} {v : Value} {t : String} (decodes : key ∈ encodedEntries)
    (compound : v.isCompound = true) (written : v.toJson = .ok t) : EntryForm (key, v) (key, .str t)

/-- An element, or its text; either way with its entries in one of their forms. -/
inductive ElementForm : Fields → Value → Prop
  | plain {fs fs' : Fields} (entries : List.Forall₂ EntryForm fs fs') : ElementForm fs (.obj fs')
  | encoded {fs fs' : Fields} {t : String} (entries : List.Forall₂ EntryForm fs fs')
    (written : (Value.obj fs').toJson = .ok t) : ElementForm fs (.str t)

/-- The text of a column, or that text as a JSON text. -/
inductive ColumnForm : String → String → Prop
  | plain (s : String) : ColumnForm s s
  | encoded {s t : String} (written : (Value.str s).toJson = .ok t) : ColumnForm s t

/-- The text of a value that is no text itself. -/
def IsPlainText (s : String) : Prop := ∃ v : Value, v.IsJson ∧ v.isText = false ∧ v.toJson = .ok s

/-! ### Columns -/

/-- A text that has been written as JSON once more is unwrapped. -/
theorem readEncoded?_text {s t : String} (written : (Value.str s).toJson = .ok t) :
    readEncoded? t = some (.str s) := by
  refine readEncoded?_toJson (.str s) written (c := '"') ?_ rfl
  rw [← Except.ok.inj written]
  simp [Json.quotedText]

/-- The text of a value that is no text is decoded once only. -/
theorem IsPlainText.columnValue? {s : String} (h : IsPlainText s) :
    columnValue? s = readEncoded? s := by
  obtain ⟨v, json, noText, written⟩ := h
  obtain ⟨t, ht, reads⟩ := Json.read?_toJson json
  obtain rfl : t = s := Except.ok.inj (ht.symm.trans written)
  unfold QuotationPress.columnValue?
  split
  · next inner found =>
    unfold readEncoded? at found
    split at found
    · cases found
    · rw [reads] at found
      obtain rfl := Option.some.inj found
      cases noText
  · rfl

/-- A column holds the same value in both of its forms. -/
theorem ColumnForm.columnValue? {s t : String} (plain : IsPlainText s) (h : ColumnForm s t) :
    columnValue? t = columnValue? s := by
  cases h with
  | plain => rfl
  | encoded written =>
    rw [plain.columnValue?, QuotationPress.columnValue?, readEncoded?_text written]

theorem ColumnForm.columnFields {s t : String} (plain : IsPlainText s) (h : ColumnForm s t) :
    columnFields t = columnFields s := by
  rw [QuotationPress.columnFields, h.columnValue? plain, QuotationPress.columnFields]

theorem ColumnForm.columnItems {s t : String} (plain : IsPlainText s) (h : ColumnForm s t) :
    columnItems t = columnItems s := by
  rw [QuotationPress.columnItems, h.columnValue? plain, QuotationPress.columnItems]

/-! ### Entries that are read alike -/

/-- Two entries under one key that are the same once decoded, or at once where nothing is
decoded. -/
structure Alike (e e' : String × Value) : Prop where
  key : e'.1 = e.1
  decoded : decodedValue e'.2 = decodedValue e.2
  same : e.1 ∉ encodedEntries → e'.2 = e.2

theorem Alike.refl (e : String × Value) : Alike e e := ⟨rfl, rfl, fun _ => rfl⟩

/-- The two forms of an entry are read alike. -/
theorem EntryForm.alike {e e' : String × Value} (json : e.2.IsJson) (h : EntryForm e e') :
    Alike e e' := by
  cases h with
  | plain => exact .refl e
  | encoded decodes compound written =>
    refine ⟨rfl, ?_, fun other => absurd decodes other⟩
    rw [decodedValue_toJson json compound written, decodedValue_of_isCompound compound]

variable {fs fs' : Fields}

theorem alike_of_forms (json : ∀ e ∈ fs, e.2.IsJson) (h : List.Forall₂ EntryForm fs fs') :
    List.Forall₂ Alike fs fs' := by
  induction h with
  | nil => exact .nil
  | cons entry _ ih =>
    rw [List.forall_mem_cons] at json
    exact .cons (entry.alike json.1) (ih json.2)

namespace Fields

/-- Fields that are alike answer alike under every key. -/
theorem get?_alike (h : List.Forall₂ Alike fs fs') (key : String) :
    Option.Rel (fun v v' => Alike (key, v) (key, v')) (fs.get? key) (fs'.get? key) := by
  induction h with
  | nil => exact .none
  | @cons e e' _ _ entry _ ih =>
    obtain ⟨k, v⟩ := e
    obtain ⟨k', v'⟩ := e'
    obtain rfl : k' = k := entry.key
    rw [get?_cons, get?_cons]
    split
    · next found =>
      subst found
      exact .some entry
    · exact ih

/-- Under a key whose entry is never encoded, both answer the same. -/
theorem get?_eq_of_alike (h : List.Forall₂ Alike fs fs') {key : String}
    (other : key ∉ encodedEntries) :
    fs'.get? key = fs.get? key := by
  have related := get?_alike h key
  generalize fs.get? key = v at related ⊢
  generalize fs'.get? key = v' at related ⊢
  cases related with
  | none => rfl
  | some entry => exact congrArg some (entry.same other)

/-- A field that is put into both keeps them alike. -/
theorem put_alike (h : List.Forall₂ Alike fs fs') (key : String) (v : Value) :
    List.Forall₂ Alike (fs.put key v) (fs'.put key v) := by
  induction h with
  | nil => exact .cons (.refl _) .nil
  | @cons e e' _ _ entry rest ih =>
    obtain ⟨k, w⟩ := e
    obtain ⟨k', w'⟩ := e'
    obtain rfl : k' = k := entry.key
    rw [put, put]
    split
    · exact .cons (.refl _) rest
    · exact .cons entry ih

end Fields

/-! ### Elements -/

namespace StoredElement

/-- An element is completed by what it says of its type and its name, which are never decoded. -/
theorem completed_alike (h : List.Forall₂ Alike fs fs') {rowId : String} {index : Nat} {gs : Fields}
    (completes : completed rowId index fs = .ok gs) :
    ∃ gs', completed rowId index fs' = .ok gs' ∧ List.Forall₂ Alike gs gs' := by
  obtain ⟨type, htype, completes⟩ := Outcome.bind_eq_ok.mp completes
  have sameType : fs'.get "type" = fs.get "type" := by
    rw [Fields.get, Fields.get?_eq_of_alike h (by decide), Fields.get]
  have typed := Fields.put_alike h "type" (.str type)
  have sameId : (fs'.put "type" (.str type)).get "id" = (fs.put "type" (.str type)).get "id" := by
    rw [Fields.get, Fields.get?_eq_of_alike typed (by decide), Fields.get]
  refine ⟨_, by rw [completed, sameType, htype]; rfl, ?_⟩
  rw [← Except.ok.inj completes, sameId]
  split
  · exact typed
  · exact Fields.put_alike typed "id" _

end StoredElement

/-- A field is read alike, if its reader decodes what may be encoded. -/
theorem Checked.field_alike {α : Type} (h : List.Forall₂ Alike fs fs') (key : String)
    (absent : Checked α) {read : Value → Checked α}
    (decodes : key ∉ encodedEntries ∨ ∀ v, read (decodedValue v) = read v) :
    field .plain fs' key absent read = field .plain fs key absent read := by
  have related := Fields.get?_alike h key
  unfold field Spelling.find?
  dsimp only
  generalize fs.get? key = v at related ⊢
  generalize fs'.get? key = v' at related ⊢
  cases related with
  | none => rfl
  | @some v v' entry =>
    obtain other | decodes := decodes
    · have same : v' = v := entry.same other
      rw [same]
    · have decoded : decodedValue v' = decodedValue v := entry.decoded
      simp only [← decodes v', ← decodes v, decoded]

/-- Entries chosen by their keys, none of which is ever encoded, are the same. -/
theorem filter_alike (h : List.Forall₂ Alike fs fs') {keep : String × Value → Bool}
    (others : ∀ e, keep e = true → e.1 ∉ encodedEntries)
    (keys : ∀ k v w, keep (k, v) = keep (k, w)) :
    fs'.filter keep = fs.filter keep := by
  induction h with
  | nil => rfl
  | @cons e e' _ _ entry _ ih =>
    obtain ⟨k, v⟩ := e
    obtain ⟨k', v'⟩ := e'
    obtain rfl : k' = k := entry.key
    rw [List.filter_cons, List.filter_cons, keys k' v' v, ih]
    split
    · next kept =>
      have same : v' = v := entry.same (others _ kept)
      rw [same]
    · rfl

/-- What a check of an element looks at is decoded, or the same at once. -/
theorem TemplateElement.check_alike (h : List.Forall₂ Alike fs fs') (name : String) :
    check name (.obj fs') = check name (.obj fs) := by
  have record (fs : Fields) : check name (.obj fs) = ofFields name fs := rfl
  -- what is kept beside the known fields is never encoded: the keys that may be are known ones
  have extra : (fs'.filter fun e => !fieldNames.contains e.1) =
      fs.filter fun e => !fieldNames.contains e.1 := by
    refine filter_alike h (fun e other encoded => ?_) fun _ _ _ => rfl
    have inside : e.1 ∈ fieldNames := by
      revert encoded
      simp only [encodedEntries, fieldNames, List.mem_cons, List.not_mem_nil, or_false]
      tauto
    simp [inside] at other
  rw [record, record]
  simp only [ofFields, Checked.optional, Checked.required, extra]
  rw [Checked.field_alike h "id" _ (.inl (by decide)),
    Checked.field_alike h "type" _ (.inl (by decide)),
    Checked.field_alike h "visible" _ (.inl (by decide)),
    Checked.field_alike h "content" _ (.inr fun v => ?_),
    Checked.field_alike h "style" _ (.inr fun v => ?_),
    Checked.field_alike h "config" _ (.inr fun v => ?_)]
  all_goals simp only [decodedFields, decodedValue_decodedValue]

theorem keys_of_forms (h : List.Forall₂ EntryForm fs fs') : fs'.map Prod.fst = fs.map Prod.fst := by
  induction h with
  | nil => rfl
  | cons entry _ ih =>
    rw [List.map_cons, List.map_cons, ih]
    cases entry <;> rfl

/-- Encoding entries of an element leaves a JSON value. -/
theorem isJson_of_forms (json : (Value.obj fs).IsJson) (h : List.Forall₂ EntryForm fs fs') :
    (Value.obj fs').IsJson := by
  cases json with
  | obj distinct values =>
    refine .obj (by rwa [keys_of_forms h]) ?_
    clear distinct
    induction h with
    | nil => exact nofun
    | cons entry _ ih =>
      rw [List.forall_mem_cons] at values ⊢
      refine ⟨?_, ih values.2⟩
      cases entry with
      | plain => exact values.1
      | encoded => exact .str _

variable {w : Value}

theorem ElementForm.isJson (json : (Value.obj fs).IsJson) (h : ElementForm fs w) : w.IsJson := by
  cases h with
  | plain entries => exact isJson_of_forms json entries
  | encoded entries written => exact .str _

/-- Elements in any of their forms are a JSON list. -/
theorem isJson_of_elementForms {given : List Fields} {ws : List Value}
    (json : ∀ fs ∈ given, (Value.obj fs).IsJson) (h : List.Forall₂ ElementForm given ws) :
    (Value.list ws).IsJson := by
  refine .list ?_
  induction h with
  | nil => exact nofun
  | cons element _ ih =>
    rw [List.forall_mem_cons] at json ⊢
    exact ⟨element.isJson json.1, ih json.2⟩

/-- Whatever its form, an element is decoded to one that is read alike. -/
theorem ElementForm.decoded (json : (Value.obj fs).IsJson) (h : ElementForm fs w) :
    ∃ fs', StoredElement.decoded w = .obj fs' ∧ List.Forall₂ Alike fs fs' := by
  have values : ∀ e ∈ fs, e.2.IsJson := by
    cases json with
    | obj _ values => exact values
  cases h with
  | plain entries => exact ⟨_, rfl, alike_of_forms values entries⟩
  | encoded entries written =>
    refine ⟨_, ?_, alike_of_forms values entries⟩
    obtain ⟨t, ht, reads⟩ := Json.read?_toJson (isJson_of_forms json entries)
    obtain rfl := Except.ok.inj (ht.symm.trans written)
    rw [StoredElement.decoded, reads, Option.getD_some]

/-- Lists of elements that are the same but for their forms are normalized, and then checked
alike. -/
theorem StoredElement.normalized_forms {given : List Fields} {ws : List Value}
    (json : ∀ fs ∈ given, (Value.obj fs).IsJson) (h : List.Forall₂ ElementForm given ws)
    (rowId : String) (index : Nat) : ∃ entries entries',
      normalized rowId index (given.map Value.obj) = .ok entries ∧
      normalized rowId index ws = .ok entries' ∧
      ∀ (names : Nat → String) (i : Nat),
        Checked.eachFrom (fun i => TemplateElement.check (names i)) i entries' =
          Checked.eachFrom (fun i => TemplateElement.check (names i)) i entries := by
  -- along both lists at once; the index counts up, as the names given to elements depend on it
  induction h generalizing index with
  | nil => exact ⟨[], [], rfl, rfl, fun _ _ => rfl⟩
  | @cons fs w _ _ element _ ih =>
    rw [List.forall_mem_cons] at json
    obtain ⟨fs', decodes, alike⟩ := element.decoded json.1
    obtain ⟨gs, completes, -⟩ := completed_spec json.1 rowId index
    obtain ⟨gs', completes', same⟩ := completed_alike alike completes
    obtain ⟨entries, entries', hentries, hentries', checks⟩ := ih json.2 (index + 1)
    refine ⟨.obj gs :: entries, .obj gs' :: entries', ?_, ?_, fun names i => ?_⟩
    · simp only [List.map_cons, normalized, StoredElement.decoded, completes, hentries]
      rfl
    · simp only [normalized, decodes, completes', hentries']
      rfl
    · rw [Checked.eachFrom, Checked.eachFrom, TemplateElement.check_alike same, checks]

/-! ### Rows -/

/-- A row in any of the forms that older writers have left holds the template of the plain row. -/
theorem TemplateRow.template_encoded {r : TemplateRow} {given : List Fields}
    (json : ∀ fs ∈ given, (Value.obj fs).IsJson)
    (elements : TemplateBody.elementsText given = .ok r.elements)
    (settings : IsPlainText r.settings) (branding : IsPlainText r.branding)
    {ws : List Value} (forms : List.Forall₂ ElementForm given ws)
    {text : String} (written : (Value.list ws).toJson = .ok text)
    {elements' settings' branding' : String} (elementsForm : ColumnForm text elements')
    (settingsForm : ColumnForm r.settings settings')
    (brandingForm : ColumnForm r.branding branding') :
    ({ r with elements := elements', settings := settings', branding := branding' } :
      TemplateRow).template =
      r.template := by
  have jsonForms := isJson_of_elementForms json forms
  have plain : IsPlainText text := ⟨_, jsonForms, rfl, written⟩
  obtain ⟨entries, entries', normal, normal', checks⟩ :=
    StoredElement.normalized_forms json forms r.id 0
  have sameElements :
    ({ r with elements := elements', settings := settings', branding := branding' } :
      TemplateRow).readElements = r.readElements := by
    simp only [readElements, elementsForm.columnItems plain, columnItems_toJson jsonForms written,
      normal', columnItems_elementsText json elements, normal, Outcome.ok_bind, checks]
  simp only [template, sameElements, settingsForm.columnFields settings,
    brandingForm.columnFields branding]

/-- A letter and a hidden header, as they are and as an older writer has left them. -/
def letterElements : List Fields :=
  [[("type", .str "text"), ("content", .obj [("text", .str "Dear Sir")])],
    [("type", .str "header"), ("visible", .bool false)]]

def letterForms : List Value :=
  [.str "\x7b\"type\": \"text\", \"content\": \"\x7b\\\"text\\\": \\\"Dear Sir\\\"\x7d\"\x7d",
    .obj [("type", .str "header"), ("visible", .bool false)]]

def letterRow : TemplateRow where
  id := "tpl_1"
  name := "Letter"
  elements := "[\x7b\"type\": \"text\", \"content\": \x7b\"text\": \"Dear Sir\"\x7d\x7d, " ++
    "\x7b\"type\": \"header\", \"visible\": false\x7d]"
  createdAt := storeEpoch
  updatedAt := storeEpoch

theorem isJson_letterElements : ∀ fs ∈ letterElements, (Value.obj fs).IsJson := by
  simp only [letterElements, List.forall_mem_cons]
  refine ⟨.obj (by decide) ?_, .obj (by decide) ?_, nofun⟩ <;> simp only [List.forall_mem_cons]
  · exact ⟨.str _, .obj (by decide) (List.forall_mem_singleton.mpr (.str _)), nofun⟩
  · exact ⟨.str _, .bool _, nofun⟩

theorem letterForms_forms : List.Forall₂ ElementForm letterElements letterForms := by
  have letter : List.Forall₂ EntryForm [("type", .str "text"),
    ("content", .obj [("text", .str "Dear Sir")])]
      [("type", .str "text"), ("content", .str "\x7b\"text\": \"Dear Sir\"\x7d")] :=
    .cons (.plain _) (.cons (.encoded (by decide) rfl rfl) .nil)
  have header : List.Forall₂ EntryForm [("type", .str "header"), ("visible", .bool false)]
      [("type", .str "header"), ("visible", .bool false)] :=
        .cons (.plain _) (.cons (.plain _) .nil)
  exact .cons (.encoded letter rfl) (.cons (.plain header) .nil)

/-- An element is encoded within the list, an entry of it within the element, and two columns once
more. -/
theorem letterRow_encoded : ∃ text elements settings : String,
    TemplateBody.elementsText letterElements = .ok letterRow.elements ∧
    (Value.list letterForms).toJson = .ok text ∧
    (Value.str text).toJson = .ok elements ∧ (Value.str letterRow.settings).toJson = .ok settings ∧
    Outcome.Succeeds letterRow.template ∧
    ({ letterRow with elements := elements, settings := settings, branding := letterRow.branding } :
      TemplateRow).template = letterRow.template := by
  have empty : IsPlainText "\x7b\x7d" := ⟨.obj [], Value.isJson_nil, rfl, rfl⟩
  refine ⟨_, _, _, rfl, rfl, rfl, rfl, by decide +kernel, ?_⟩
  exact TemplateRow.template_encoded isJson_letterElements rfl empty empty letterForms_forms rfl
    (.encoded rfl) (.encoded rfl) (.plain _)

end QuotationPress
