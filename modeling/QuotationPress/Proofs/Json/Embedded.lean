import QuotationPress.Proofs.Json.Reading
import QuotationPress.Proofs.Text.Trim
import QuotationPress.Template.Basic

/-!
# Values that stand in a text

Where texts are decoded, a list or an object may be given as its JSON text (`decodedValue_toJson`),
and what has been decoded is left alone (`decodedValue_decodedValue`).
-/

namespace QuotationPress

/-! ### The texts of lists and objects -/

namespace Value

/-- A value that is made of others. -/
def isCompound : Value → Bool
  | list _ => true
  | obj _ => true
  | _ => false

/-- The entries of an object begin with a quote mark. -/
theorem start_fieldsToJson {fs : List (String × Value)} {ts : List String}
    (h : fieldsToJson fs = .ok ts) :
    (joinedBy ", " ts).toList = [] ∨ ∃ more, (joinedBy ", " ts).toList = '"' :: more := by
  cases fs with
  | nil =>
    obtain rfl := Except.ok.inj h
    exact .inl rfl
  | cons e rest =>
    obtain ⟨key, v⟩ := e
    obtain ⟨t, -, h⟩ := Outcome.bind_eq_ok.mp h
    obtain ⟨more, -, h⟩ := Outcome.bind_eq_ok.mp h
    rw [← Except.ok.inj h]
    right
    cases more <;> simp [joinedBy, Json.quotedText]

/-- The text of a list or an object stands between brackets or braces, and it looks like one. -/
theorem ends_toJson {v : Value} (compound : v.isCompound = true) {s : String}
    (h : v.toJson = .ok s) :
    Text.trim s.toList = s.toList ∧ looksEncoded s.toList = true := by
  cases v with
  | list xs =>
    rw [toJson] at h
    obtain ⟨ts, -, h⟩ := Outcome.bind_eq_ok.mp h
    have text : s.toList = '[' :: ((joinedBy ", " ts).toList ++ [']']) := by
      rw [← Except.ok.inj h]
      simp
    rw [text]
    exact ⟨Text.trim_of_ends rfl rfl _, rfl⟩
  | obj fs =>
    rw [toJson] at h
    obtain ⟨ts, written, h⟩ := Outcome.bind_eq_ok.mp h
    have text : s.toList = '\x7b' :: ((joinedBy ", " ts).toList ++ ['\x7d']) := by
      rw [← Except.ok.inj h]
      simp
    rw [text]
    refine ⟨Text.trim_of_ends rfl rfl _, ?_⟩
    -- braces with nothing between them look like an object as well
    obtain empty | ⟨more, quoted⟩ := start_fieldsToJson written
    · rw [empty]
      rfl
    · rw [quoted]
      rfl
  | _ => cases compound

end Value

/-- A list or an object is read from its own text. -/
theorem decodedValue_toJson {v : Value} (json : v.IsJson) (compound : v.isCompound = true)
    {s : String} (h : v.toJson = .ok s) : decodedValue (.str s) = v := by
  obtain ⟨trimmed, encoded⟩ := Value.ends_toJson compound h
  obtain ⟨t, written, reads⟩ := Json.read?_toJson json
  obtain rfl : t = s := Except.ok.inj (written.symm.trans h)
  have found : Json.readChars? t.toList = some v := reads
  simp only [decodedValue, trimmed, encoded, ite_true, found, Option.getD_some]

/-! ### Decoding twice -/

namespace Json

/-- Behind a bracket or a brace a list or an object is read, or nothing. -/
theorem isCompound_of_readValue? {c : Char} (h : c = '[' ∨ c = '\x7b') {fuel : ℕ}
    {cs rest : List Char} {v : Value} (read : readValue? fuel (c :: cs) = some (v, rest)) :
    v.isCompound = true := by
  cases fuel with
  | zero => cases read
  | succ fuel =>
    obtain rfl | rfl := h
    all_goals
      rw [readValue?] at read
      split at read
      · obtain ⟨rfl, -⟩ := by simpa using read
        rfl
      · obtain ⟨r, -, read⟩ := Option.map_eq_some_iff.mp read
        obtain ⟨rfl, -⟩ := by simpa using read
        rfl

/-- What is read from a text that looks like a list or an object is one. -/
theorem isCompound_of_readChars? {cs : List Char} (encoded : looksEncoded cs = true) {v : Value}
    (h : readChars? cs = some v) : v.isCompound = true := by
  unfold looksEncoded at encoded
  split at encoded
  · cases encoded
  · next c more _ =>
    have mark : c = '[' ∨ c = '\x7b' := by simpa [or_comm] using encoded
    have start : skipSpaces (c :: more) = c :: more := by obtain rfl | rfl := mark <;> rfl
    rw [readChars?, start] at h
    split at h
    · next w rest read =>
      split at h
      · rw [← Option.some.inj h]
        exact isCompound_of_readValue? mark read
      · cases h
    · cases h
  · cases encoded

end Json

/-- A text stands for itself or for the list or the object that it encodes. -/
theorem decodedValue_str (s : String) :
    decodedValue (.str s) = .str s ∨ (decodedValue (.str s)).isCompound = true := by
  by_cases encoded : looksEncoded (Text.trim s.toList) = true
  · simp only [decodedValue, if_pos encoded]
    cases found : Json.readChars? (Text.trim s.toList) with
    | none => exact .inl rfl
    | some v => exact .inr (Json.isCompound_of_readChars? encoded found)
  · simp only [decodedValue, if_neg encoded, true_or]

theorem decodedValue_of_isCompound {v : Value} (h : v.isCompound = true) : decodedValue v = v := by
  cases v <;> first | rfl | cases h

/-- What has been decoded stays as it is. -/
theorem decodedValue_decodedValue (v : Value) : decodedValue (decodedValue v) = decodedValue v := by
  cases v with
  | str s =>
    obtain kept | compound := decodedValue_str s
    · rw [kept, kept]
    · exact decodedValue_of_isCompound compound
  | _ => rfl

end QuotationPress
