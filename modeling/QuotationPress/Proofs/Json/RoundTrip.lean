import QuotationPress.Proofs.Json.Number
import QuotationPress.Proofs.Json.Text
import QuotationPress.Proofs.Outcome

/-!
# What is written as JSON is read back

`Value.IsJson` are the values that have a JSON text of their own, and `read?_toJson` says that such
a text is written and that reading it gives the value.
-/

namespace QuotationPress

namespace Value

/-- A value of the kinds that JSON has. Whole numbers have no more digits than are read, and there
is but one value that is no number. -/
inductive IsJson : Value → Prop
  | null : IsJson null
  | bool (b : Bool) : IsJson (bool b)
  | int {i : ℤ} (short : digitCount i.natAbs ≤ numeralLimit) : IsJson (int i)
  | float {x : Binary64} (one : x.isNan = true → x = .nan) : IsJson (float x)
  | str (s : String) : IsJson (str s)
  | list {xs : List Value} (items : ∀ x ∈ xs, IsJson x) : IsJson (list xs)
  | obj {fs : List (String × Value)} (distinct : (fs.map Prod.fst).Nodup)
    (values : ∀ e ∈ fs, IsJson e.2) : IsJson (obj fs)

end Value

/-! ### Distinct keys -/

theorem Fields.put_of_not_mem {fs : Fields} {key : String} (h : key ∉ fs.map Prod.fst) (v : Value) :
    fs.put key v = fs ++ [(key, v)] := by
  induction fs with
  | nil => rfl
  | cons e rest ih =>
    obtain ⟨k, w⟩ := e
    simp only [List.map_cons, List.mem_cons, not_or] at h
    rw [put, if_neg (Ne.symm h.1), ih h.2]
    rfl

theorem Fields.overlay_of_distinct {lower upper : Fields}
    (h : ((lower ++ upper).map Prod.fst).Nodup) :
    overlay lower upper = lower ++ upper := by
  induction upper generalizing lower with
  | nil => simp [overlay]
  | cons e rest ih =>
    have fresh : e.1 ∉ lower.map Prod.fst := by
      rw [List.map_append, List.nodup_append] at h
      exact fun mem => h.2.2 _ mem _ (by simp) rfl
    have step : overlay lower (e :: rest) = overlay (lower ++ [e]) rest := by
      simp [overlay, put_of_not_mem fresh]
    rw [step, ih (by simpa using h)]
    simp

theorem Fields.ofEntries_of_distinct {fs : Fields} (h : (fs.map Prod.fst).Nodup) :
    ofEntries fs = fs := by
  have whole : overlay [] fs = [] ++ fs := overlay_of_distinct h
  exact whole

namespace Json

/-- `cs` is a JSON text of `v`: it is read as `v`, whatever follows that cannot belong to a
number. -/
structure Spells (cs : List Char) (v : Value) : Prop where
  /-- A text of a value can be told from the end of a list. -/
  start : ∃ c more, cs = c :: more ∧ isSpace c = false ∧ c ≠ ']'
  reads : ∀ fuel rest, cs.length ≤ fuel → EndsNumber rest →
    readValue? fuel (cs ++ rest) = some (v, rest)

/-- The text of a value does not begin with a blank. -/
theorem Spells.skipSpaces {cs : List Char} {v : Value} (h : Spells cs v) (rest : List Char) :
    skipSpaces (cs ++ rest) = cs ++ rest := by
  obtain ⟨c, more, rfl, space, -⟩ := h.start
  simp [Json.skipSpaces, space]

/-! ### Single values -/

/-- A word that is read as a value spells it. -/
theorem spells_of_word {word : String} {v : Value}
    (start : ∃ c more, word.toList = c :: more ∧
      isSpace c = false ∧ c ≠ ']' ∧ c ≠ '"' ∧ c ≠ '[' ∧ c ≠ '\x7b')
    (found : ∀ rest, readWord? (word.toList ++ rest) = some (v, rest)) : Spells word.toList v := by
  obtain ⟨c, more, hc, space, close, others⟩ := start
  refine ⟨⟨c, more, hc, space, close⟩, fun fuel rest room _ => ?_⟩
  have found := found rest
  rw [hc] at room found ⊢
  obtain ⟨fuel, rfl⟩ : ∃ n, fuel = n + 1 := ⟨fuel - 1, by simp at room; omega⟩
  rw [List.cons_append] at found ⊢
  simp [readValue?, others, found]

/-- A body that is read as a number spells it, with its sign. -/
theorem spells_number {body : List Char} {v : Value} (negative : Bool)
    (reads : ∀ rest, EndsNumber rest → readNumber? negative (body ++ rest) = some (v, rest)) :
    Spells ((if negative then ['-'] else []) ++ body) v := by
  have number : (readNumber? negative body).isSome = true := by
    simpa using congrArg Option.isSome (reads [] fun _ h => nomatch h)
  obtain ⟨d, more, hd, digit⟩ := head_of_readNumber? number
  have others : isSpace d = false ∧ d ≠ ']' := by
    refine ⟨?_, by rintro rfl; exact absurd digit (by decide)⟩
    have : d ≠ ' ' ∧ d ≠ '\t' ∧ d ≠ '\n' ∧ d ≠ '\r' := by
      refine ⟨?_, ?_, ?_, ?_⟩ <;> rintro rfl <;> exact absurd digit (by decide)
    simp [isSpace, this]
  refine ⟨?_, fun fuel rest room hr => ?_⟩
  · cases negative
    · exact ⟨d, more, hd, others⟩
    · exact ⟨'-', body, rfl, rfl, by decide⟩
  · obtain ⟨fuel, rfl⟩ : ∃ n, fuel = n + 1 := ⟨fuel - 1, by simp [hd] at room; omega⟩
    rw [List.append_assoc]
    exact readValue?_number negative fuel (reads rest hr)

theorem spells_int {i : ℤ} (short : digitCount i.natAbs ≤ numeralLimit) :
    Spells (intNumeral i) (.int i) := by
  have reads (rest : List Char) (hr : EndsNumber rest) :
      readNumber? (decide (i < 0)) (numeral i.natAbs ++ rest) = some (.int i, rest) := by
    rw [readNumber?_numeral _ short hr]
    congr 3
    by_cases h : i < 0
    · simp [h, abs_of_neg]
    · simp [h, abs_of_nonneg (not_lt.mp h)]
  have spelled := spells_number (decide (i < 0)) reads
  unfold intNumeral
  split
  · next h => simpa [h] using spelled
  · next h => simpa [h] using spelled

/-- A float is spelled by its text, also if it is infinite or no number. -/
theorem spells_float {x : Binary64} (one : x.isNan = true → x = .nan) :
    Spells (floatText x).toList (.float x) := by
  unfold floatText
  by_cases number : x.isNan = true
  · rw [if_pos number, one number]
    exact spells_of_word ⟨_, _, rfl, rfl, by decide⟩ fun _ => rfl
  · rw [if_neg number]
    cases finite : x.isFinite with
    | true =>
      obtain ⟨body, text, reads⟩ := text_of_isFinite finite
      simpa [text, Binary64.signText] using spells_number x.negative reads
    | false =>
      -- neither finite nor a number that is none
      have infinite : x = .infinity x.negative := by
        simp only [Binary64.isNan, finite, Bool.not_false, Bool.true_and, bne_iff_ne,
          not_not] at number
        simp only [Binary64.isFinite, bne_eq_false_iff_eq] at finite
        obtain ⟨negative, exponent, fraction⟩ := x
        exact congr (congrArg (Binary64.mk negative) (Fin.ext finite)) (Fin.ext number)
      rw [infinite]
      cases x.negative with
      | true => exact spells_of_word ⟨_, _, rfl, rfl, by decide⟩ fun _ => rfl
      | false => exact spells_of_word ⟨_, _, rfl, rfl, by decide⟩ fun _ => rfl

theorem spells_str (s : String) : Spells (quotedText s).toList (.str s) := by
  refine ⟨⟨'"', s.toList.flatMap escapedChar ++ ['"'], by simp [quotedText], rfl, by decide⟩,
    fun fuel rest room _ => ?_⟩
  obtain ⟨more, text, reads⟩ := readText?_quotedText s rest
  obtain ⟨fuel, rfl⟩ : ∃ n, fuel = n + 1 := ⟨fuel - 1, by simp [quotedText] at room; omega⟩
  rw [text]
  simp [readValue?, reads]

/-! ### Lists -/

/-- `cs` is what stands between the brackets of a list. -/
structure SpellsItems (cs : List Char) (xs : List Value) : Prop where
  start : ∃ c more, cs = c :: more ∧ isSpace c = false ∧ c ≠ ']'
  reads : ∀ fuel rest, cs.length < fuel → readItems? fuel (cs ++ ']' :: rest) = some (xs, rest)

theorem endsNumber_mark {c : Char} (h : c ∈ [',', ']', '\x7d']) (rest : List Char) :
    EndsNumber (c :: rest) := by
  have marks : ∀ c ∈ [',', ']', '\x7d'],
      Text.isAsciiDigit c = false ∧ c ≠ '.' ∧ c ≠ 'e' ∧ c ≠ 'E' := by
    simp [Text.isAsciiDigit]
  intro d hd
  obtain rfl : c = d := by simpa using hd
  exact marks c h

theorem skipSpaces_mark {c : Char} (h : isSpace c = false) (rest : List Char) :
    skipSpaces (c :: rest) = c :: rest := by
  simp [Json.skipSpaces, h]

theorem skipSpaces_blank (rest : List Char) : skipSpaces (' ' :: rest) = skipSpaces rest := rfl

theorem Spells.items {cs : List Char} {x : Value} (h : Spells cs x) : SpellsItems cs [x] := by
  refine ⟨h.start, fun fuel rest room => ?_⟩
  obtain ⟨fuel, rfl⟩ : ∃ n, fuel = n + 1 := ⟨fuel - 1, by omega⟩
  rw [readItems?, h.reads fuel _ (by omega) (endsNumber_mark (by simp) rest)]
  simp only [skipSpaces_mark (c := ']') rfl]

/-- One more item stands in front of a comma and a blank. -/
theorem SpellsItems.cons {cs ds : List Char} {x : Value} {xs : List Value} (h : Spells cs x)
    (more : SpellsItems ds xs) : SpellsItems (cs ++ ',' :: ' ' :: ds) (x :: xs) := by
  refine ⟨?_, fun fuel rest room => ?_⟩
  · obtain ⟨c, tail, rfl, start⟩ := h.start
    exact ⟨c, _, rfl, start⟩
  · simp only [List.length_append, List.length_cons] at room
    obtain ⟨fuel, rfl⟩ : ∃ n, fuel = n + 1 := ⟨fuel - 1, by omega⟩
    have blank : skipSpaces (' ' :: (ds ++ ']' :: rest)) = ds ++ ']' :: rest := by
      obtain ⟨c, tail, rfl, space, -⟩ := more.start
      rw [skipSpaces_blank, List.cons_append, skipSpaces_mark space]
    rw [List.append_assoc, List.cons_append, List.cons_append, readItems?,
      h.reads fuel _ (by omega) (endsNumber_mark (by simp) _)]
    simp only [skipSpaces_mark (c := ',') rfl, blank, more.reads fuel rest (by omega),
      Option.map_some]

theorem spells_list_nil : Spells ['[', ']'] (.list []) := by
  refine ⟨⟨_, _, rfl, rfl, by decide⟩, fun fuel rest room _ => ?_⟩
  obtain ⟨fuel, rfl⟩ : ∃ n, fuel = n + 1 := ⟨fuel - 1, by simp at room; omega⟩
  rfl

theorem SpellsItems.list {cs : List Char} {xs : List Value} (h : SpellsItems cs xs) :
    Spells ('[' :: cs ++ [']']) (.list xs) := by
  refine ⟨⟨_, _, rfl, rfl, by decide⟩, fun fuel rest room _ => ?_⟩
  simp only [List.length_append, List.length_cons, List.length_nil] at room
  obtain ⟨fuel, rfl⟩ : ∃ n, fuel = n + 1 := ⟨fuel - 1, by omega⟩
  have reads := h.reads fuel rest (by omega)
  obtain ⟨c, tail, rfl, space, close⟩ := h.start
  simp only [List.cons_append, List.append_assoc, List.nil_append] at reads ⊢
  rw [readValue?]
  simp [skipSpaces_mark space, close, reads]

/-! ### Objects -/

/-- `cs` is what stands between the braces of an object. -/
structure SpellsFields (cs : List Char) (fs : List (String × Value)) : Prop where
  start : ∃ more, cs = '"' :: more
  reads : ∀ fuel rest, cs.length < fuel → readFields? fuel (cs ++ '\x7d' :: rest) = some (fs, rest)

def entryText (key : String) (cs : List Char) : List Char :=
  (quotedText key).toList ++ ':' :: ' ' :: cs

theorem start_entryText (key : String) (cs : List Char) : ∃ more, entryText key cs = '"' :: more :=
  ⟨_, by simp only [entryText, quotedText, String.toList_ofList, List.cons_append]; rfl⟩

/-- What is read behind an entry: the end of the object, or more entries. -/
def readBehind? (fuel : ℕ) (entry : String × Value) : List Char → Option (Fields × List Char)
  | '\x7d' :: left => some ([entry], left)
  | ',' :: more => (readFields? fuel (skipSpaces more)).map fun (fs, left) => (entry :: fs, left)
  | _ => none

/-- The key of an entry and its value are read; what follows decides how it goes on. -/
theorem readFields?_entry {key : String} {cs : List Char} {v : Value} (h : Spells cs v) {fuel : ℕ}
    (room : cs.length ≤ fuel) {c : Char} (mark : c ∈ [',', ']', '\x7d']) (rest : List Char) :
    readFields? (fuel + 1) (entryText key cs ++ c :: rest) =
      readBehind? fuel (key, v) (skipSpaces (c :: rest)) := by
  obtain ⟨more, text, reads⟩ := readText?_quotedText key (':' :: ' ' :: (cs ++ c :: rest))
  have blank : skipSpaces (' ' :: (cs ++ c :: rest)) = cs ++ c :: rest := by
    rw [skipSpaces_blank, h.skipSpaces]
  rw [entryText, List.append_assoc, List.cons_append, List.cons_append, text, readFields?, reads]
  simp only [skipSpaces_mark (c := ':') rfl, blank, h.reads fuel _ room (endsNumber_mark mark rest),
    String.ofList_toList]
  rfl

theorem Spells.fields {cs : List Char} {v : Value} (key : String) (h : Spells cs v) :
    SpellsFields (entryText key cs) [(key, v)] := by
  refine ⟨start_entryText key cs, fun fuel rest room => ?_⟩
  simp only [entryText, List.length_append, List.length_cons] at room
  obtain ⟨fuel, rfl⟩ : ∃ n, fuel = n + 1 := ⟨fuel - 1, by omega⟩
  rw [readFields?_entry h (by omega) (by simp)]
  simp only [skipSpaces_mark (c := '\x7d') rfl, readBehind?]

theorem SpellsFields.cons {cs ds : List Char} {v : Value} {fs : List (String × Value)}
    (key : String) (h : Spells cs v) (more : SpellsFields ds fs) :
    SpellsFields (entryText key cs ++ ',' :: ' ' :: ds) ((key, v) :: fs) := by
  refine ⟨?_, fun fuel rest room => ?_⟩
  · obtain ⟨tail, start⟩ := start_entryText key cs
    exact ⟨_, by rw [start]; rfl⟩
  · simp only [entryText, List.length_append, List.length_cons] at room
    obtain ⟨fuel, rfl⟩ : ∃ n, fuel = n + 1 := ⟨fuel - 1, by omega⟩
    have blank : skipSpaces (' ' :: (ds ++ '\x7d' :: rest)) = ds ++ '\x7d' :: rest := by
      obtain ⟨tail, rfl⟩ := more.start
      rw [skipSpaces_blank, List.cons_append, skipSpaces_mark rfl]
    rw [List.append_assoc, List.cons_append, List.cons_append,
      readFields?_entry h (by omega) (by simp)]
    simp only [skipSpaces_mark (c := ',') rfl, readBehind?, blank, more.reads fuel rest (by omega),
      Option.map_some]

theorem spells_obj_nil : Spells ['\x7b', '\x7d'] (.obj []) := by
  refine ⟨⟨_, _, rfl, rfl, by decide⟩, fun fuel rest room _ => ?_⟩
  obtain ⟨fuel, rfl⟩ : ∃ n, fuel = n + 1 := ⟨fuel - 1, by simp at room; omega⟩
  rfl

/-- Entries between braces spell an object, if their keys are distinct. -/
theorem SpellsFields.obj {cs : List Char} {fs : List (String × Value)} (h : SpellsFields cs fs)
    (distinct : (fs.map Prod.fst).Nodup) : Spells ('\x7b' :: cs ++ ['\x7d']) (.obj fs) := by
  refine ⟨⟨_, _, rfl, rfl, by decide⟩, fun fuel rest room _ => ?_⟩
  simp only [List.length_append, List.length_cons, List.length_nil] at room
  obtain ⟨fuel, rfl⟩ : ∃ n, fuel = n + 1 := ⟨fuel - 1, by omega⟩
  have reads := h.reads fuel rest (by omega)
  obtain ⟨tail, rfl⟩ := h.start
  simp only [List.cons_append, List.append_assoc, List.nil_append] at reads ⊢
  rw [readValue?]
  simp [skipSpaces_mark (c := '"') rfl, reads, Fields.ofEntries_of_distinct distinct]

/-! ### Any value -/

/-- A value with a JSON text that spells it. -/
def Written (v : Value) : Prop := ∃ s, v.toJson = .ok s ∧ Spells s.toList v

/-- Items that can be written are spelled one after the other. -/
theorem spells_itemsToJson {xs : List Value} (nonempty : xs ≠ []) (written : ∀ x ∈ xs, Written x) :
    ∃ t ts, Value.itemsToJson xs = .ok (t :: ts) ∧
      SpellsItems (Value.joinedBy ", " (t :: ts)).toList xs := by
  induction xs with
  | nil => exact absurd rfl nonempty
  | cons x rest ih =>
    obtain ⟨t, ht, spelled⟩ := written x (List.mem_cons_self ..)
    cases rest with
    | nil => exact ⟨t, [], by rw [Value.itemsToJson, ht]; rfl, spelled.items⟩
    | cons y rest =>
      obtain ⟨u, us, hu, more⟩ := ih (by simp) fun z hz => written z (List.mem_cons_of_mem _ hz)
      refine ⟨t, u :: us, by rw [Value.itemsToJson, ht, hu]; rfl, ?_⟩
      simpa [Value.joinedBy] using SpellsItems.cons spelled more

theorem spells_fieldsToJson {fs : List (String × Value)} (nonempty : fs ≠ [])
    (written : ∀ e ∈ fs, Written e.2) : ∃ t ts, Value.fieldsToJson fs = .ok (t :: ts) ∧
      SpellsFields (Value.joinedBy ", " (t :: ts)).toList fs := by
  induction fs with
  | nil => exact absurd rfl nonempty
  | cons e rest ih =>
    obtain ⟨key, v⟩ := e
    obtain ⟨t, ht, spelled⟩ := written (key, v) (List.mem_cons_self ..)
    simp only at ht spelled
    -- the last entry has no comma behind it
    cases rest with
    | nil =>
      refine ⟨quotedText key ++ ": " ++ t, [], by rw [Value.fieldsToJson, ht]; rfl, ?_⟩
      simpa [Value.joinedBy, entryText] using spelled.fields key
    | cons other rest =>
      obtain ⟨u, us, hu, more⟩ := ih (by simp) fun z hz => written z (List.mem_cons_of_mem _ hz)
      refine ⟨quotedText key ++ ": " ++ t, u :: us, by rw [Value.fieldsToJson, ht, hu]; rfl, ?_⟩
      simpa [Value.joinedBy, entryText] using SpellsFields.cons key spelled more

/-- Every value that JSON has is written as a text that is read back as this value. -/
theorem written_of_isJson {v : Value} (h : v.IsJson) : Written v := by
  induction h with
  | null => exact ⟨_, rfl, spells_of_word ⟨_, _, rfl, rfl, by decide⟩ fun _ => rfl⟩
  | bool b =>
    cases b with
    | true => exact ⟨_, rfl, spells_of_word ⟨_, _, rfl, rfl, by decide⟩ fun _ => rfl⟩
    | false => exact ⟨_, rfl, spells_of_word ⟨_, _, rfl, rfl, by decide⟩ fun _ => rfl⟩
  | @int i short =>
    exact ⟨String.ofList (intNumeral i),
      by rw [Value.toJson, Value.intText, if_neg (not_lt.mpr short)],
      by simpa using spells_int short⟩
  | float one => exact ⟨_, rfl, spells_float one⟩
  | str s => exact ⟨_, rfl, spells_str s⟩
  | @list xs _ ih =>
    obtain rfl | nonempty := eq_or_ne xs []
    · exact ⟨_, rfl, spells_list_nil⟩
    · obtain ⟨t, ts, written, spelled⟩ := spells_itemsToJson nonempty ih
      refine ⟨"[" ++ Value.joinedBy ", " (t :: ts) ++ "]", by rw [Value.toJson, written]; rfl, ?_⟩
      simpa using spelled.list
  | @obj fs distinct _ ih =>
    obtain rfl | nonempty := eq_or_ne fs []
    · exact ⟨_, rfl, spells_obj_nil⟩
    · obtain ⟨t, ts, written, spelled⟩ := spells_fieldsToJson nonempty ih
      refine ⟨"\x7b" ++ Value.joinedBy ", " (t :: ts) ++ "\x7d",
        by rw [Value.toJson, written]; rfl, ?_⟩
      simpa using spelled.obj distinct

/-- Reading what has been written gives the value again. -/
theorem read?_toJson {v : Value} (h : v.IsJson) : ∃ s, v.toJson = .ok s ∧ read? s = some v := by
  obtain ⟨s, written, spelled⟩ := written_of_isJson h
  refine ⟨s, written, ?_⟩
  have reads := spelled.reads (s.toList.length + 1) [] (by omega) fun _ h => nomatch h
  have trimmed := spelled.skipSpaces []
  rw [List.append_nil] at reads trimmed
  rw [read?, readChars?, trimmed, reads]
  rfl

end Json

end QuotationPress
