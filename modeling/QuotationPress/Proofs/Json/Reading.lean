import QuotationPress.Proofs.Json.RoundTrip
import QuotationPress.Proofs.Text.Digits

/-!
# What comes out of the reader

`Json.isJson_of_readChars?`: every value that is read from a JSON text is one of those that are
written and read back.
-/

namespace QuotationPress

/-! ### Entries of an object -/

/-- A key is replaced where it stands, or it comes at the end. -/
theorem Fields.keys_put (fs : Fields) (key : String) (v : Value) :
    (fs.put key v).map Prod.fst = fs.map Prod.fst ∨
      (fs.put key v).map Prod.fst = fs.map Prod.fst ++ [key] ∧ key ∉ fs.map Prod.fst := by
  induction fs with
  | nil => exact .inr ⟨rfl, List.not_mem_nil⟩
  | cons e rest ih =>
    obtain ⟨k, w⟩ := e
    rw [put]
    split
    · exact .inl rfl
    · next other =>
      obtain same | ⟨added, fresh⟩ := ih
      · exact .inl (by simp [same])
      · refine .inr ⟨by simp [added], ?_⟩
        simp only [List.map_cons, List.mem_cons, not_or]
        exact ⟨Ne.symm other, fresh⟩

theorem Fields.nodup_put {fs : Fields} (h : (fs.map Prod.fst).Nodup) (key : String) (v : Value) :
    ((fs.put key v).map Prod.fst).Nodup := by
  obtain same | ⟨added, fresh⟩ := keys_put fs key v
  · rwa [same]
  · rw [added]
    exact List.nodup_append.mpr ⟨h, by simp, fun k hk _ he => by
      rw [List.mem_singleton.mp he]
      exact fun same => fresh (same ▸ hk)⟩

theorem Fields.values_put {P : Value → Prop} {fs : Fields} (h : ∀ e ∈ fs, P e.2) (key : String)
    {v : Value} (hv : P v) : ∀ e ∈ fs.put key v, P e.2 := by
  induction fs with
  | nil => simpa [put] using hv
  | cons e rest ih =>
    obtain ⟨k, w⟩ := e
    rw [List.forall_mem_cons] at h
    rw [put]
    split
    · exact List.forall_mem_cons.mpr ⟨hv, h.2⟩
    · exact List.forall_mem_cons.mpr ⟨h.1, ih h.2⟩

/-- JSON laid over JSON is JSON. -/
theorem Value.isJson_overlay {lower upper : Fields} (distinct : (lower.map Prod.fst).Nodup)
    (values : ∀ e ∈ lower, e.2.IsJson) (h : ∀ e ∈ upper, e.2.IsJson) :
    (obj (Fields.overlay lower upper)).IsJson := by
  induction upper generalizing lower with
  | nil => exact .obj distinct values
  | cons e rest ih =>
    rw [List.forall_mem_cons] at h
    exact ih (Fields.nodup_put distinct _ _) (Fields.values_put values _ h.1) h.2

/-- Entries of JSON make an object of JSON, whatever their keys are. -/
theorem Value.isJson_ofEntries {entries : List (String × Value)} (h : ∀ e ∈ entries, e.2.IsJson) :
    (obj (Fields.ofEntries entries)).IsJson :=
  isJson_overlay List.nodup_nil nofun h

/-! ### Numbers -/

theorem numeralValue_lt {ds : List Char} (h : ds.all Text.isAsciiDigit = true) :
    numeralValue ds < 10 ^ ds.length := by
  induction ds using List.reverseRecOn with
  | nil => decide
  | append_singleton ds d ih =>
    rw [List.all_append, Bool.and_eq_true] at h
    obtain ⟨-, digit⟩ :=
      Text.toNat_of_isAsciiDigit (by simpa using h.2 : Text.isAsciiDigit d = true)
    have zero : '0'.toNat = 48 := rfl
    rw [numeralValue_append_singleton, List.length_append, List.length_singleton, pow_succ]
    have := ih h.1
    omega

theorem digitCount_numeralValue {ds : List Char} (h : ds.all Text.isAsciiDigit = true)
    (nonempty : ds ≠ []) : digitCount (numeralValue ds) ≤ ds.length :=
  (digitCount_le_iff (List.length_pos_iff.mpr nonempty)).mpr (numeralValue_lt h)

namespace Binary64

theorem isNan_pack (negative : Bool) (m : ℕ) (q : ℤ) : (pack negative m q).isNan = false := by
  have finite (m : ℕ) (q : ℤ) (h : ¬ 971 < q) :
      Binary64.isNan
          ⟨negative, Fin.ofNat 2048 (q + 1075).toNat, Fin.ofNat fractionCount m⟩ = false := by
    have small : (q + 1075).toNat % 2048 ≠ 2047 := by omega
    simp [isNan, isFinite, small]
  unfold pack
  split
  · rfl
  · split
    split
    · rfl
    · next h => exact finite _ _ h

theorem isNan_ofRatio (negative : Bool) (n d : ℕ) : (ofRatio negative n d).isNan = false := by
  unfold ofRatio
  split
  · rfl
  · exact isNan_pack _ _ _

/-- No decimal is turned into what is no number. -/
theorem isNan_ofScaled (negative : Bool) (c : ℕ) (e : ℤ) :
    (ofScaled negative c e).isNan = false := by
  unfold ofScaled
  split_ifs
  · rfl
  · rfl
  · rfl
  · exact isNan_ofRatio _ _ _
  · exact isNan_ofRatio _ _ _

end Binary64

namespace Json

theorem wholePart?_eq_some {cs whole rest : List Char} (h : wholePart? cs = some (whole, rest)) :
    whole.all Text.isAsciiDigit = true ∧ whole ≠ [] := by
  unfold wholePart? at h
  split at h
  · obtain ⟨rfl, rfl⟩ := by simpa using h
    exact ⟨rfl, by simp⟩
  · simp only at h
    split at h
    · cases h
    · next nonempty =>
      obtain ⟨rfl, rfl⟩ := by simpa using h
      exact ⟨List.all_takeWhile, by simpa using nonempty⟩

/-- A number that is read is one that JSON has. -/
theorem isJson_of_readNumber? {negative : Bool} {cs rest : List Char} {v : Value}
    (h : readNumber? negative cs = some (v, rest)) : v.IsJson := by
  obtain ⟨⟨whole, tail⟩, hwhole, h⟩ := Option.bind_eq_some_iff.mp h
  obtain ⟨digits, nonempty⟩ := wholePart?_eq_some hwhole
  simp only at h
  split at h
  · split at h
    · cases h
    · next short =>
      obtain ⟨rfl, -⟩ := by simpa using h
      refine .int (le_trans ?_ (not_lt.mp short))
      have same : (if negative then -(numeralValue whole : ℤ) else numeralValue whole).natAbs
          = numeralValue whole := by split <;> simp
      rw [same]
      exact digitCount_numeralValue digits nonempty
  · obtain ⟨rfl, -⟩ := by simpa using h
    exact .float fun nan => by simp [Binary64.isNan_ofScaled] at nan

theorem isJson_of_readWord? {cs rest : List Char} {v : Value} (h : readWord? cs = some (v, rest)) :
    v.IsJson := by
  have all : ∀ w ∈ words, w.2.IsJson := by
    simp only [words, List.forall_mem_cons]
    refine ⟨.null, .bool _, .bool _, .float fun _ => rfl, .float fun h => ?_, .float fun h => ?_,
      fun _ h => absurd h List.not_mem_nil⟩
    · simp [Binary64.isNan, Binary64.infinity] at h
    · simp [Binary64.isNan, Binary64.infinity] at h
  obtain ⟨w, hw, h⟩ := List.exists_of_findSome?_eq_some h
  simp only at h
  split at h
  · obtain ⟨rfl, -⟩ := by simpa using h
    exact all w hw
  · cases h

/-- What the three readers give with some fuel: values of the kinds that JSON has, lists of them,
and entries with them. -/
structure ReadsJson (fuel : ℕ) : Prop where
  value : ∀ cs v rest, readValue? fuel cs = some (v, rest) → v.IsJson
  items : ∀ cs xs rest, readItems? fuel cs = some (xs, rest) → ∀ x ∈ xs, Value.IsJson x
  fields : ∀ cs fs rest, readFields? fuel cs = some (fs, rest) → ∀ e ∈ fs, Value.IsJson e.2

namespace ReadsJson

variable {fuel : ℕ} (ih : ReadsJson fuel)
include ih

/-- One more step of fuel: a value is read by the parts that have been read. -/
theorem value_succ {cs rest : List Char} {v : Value}
    (h : readValue? (fuel + 1) cs = some (v, rest)) :
    v.IsJson := by
  rw [readValue?.eq_def] at h
  simp only at h
  split at h
  · obtain ⟨r, -, h⟩ := Option.map_eq_some_iff.mp h
    obtain ⟨rfl, -⟩ := by simpa using h
    exact .str _
  · split at h
    · obtain ⟨rfl, -⟩ := by simpa using h
      exact .list fun x hx => absurd hx List.not_mem_nil
    · obtain ⟨r, hr, h⟩ := Option.map_eq_some_iff.mp h
      obtain ⟨rfl, -⟩ := by simpa using h
      exact .list (ih.items _ _ _ hr)
  · split at h
    · obtain ⟨rfl, -⟩ := by simpa using h
      exact .obj List.nodup_nil fun e he => absurd he List.not_mem_nil
    · obtain ⟨r, hr, h⟩ := Option.map_eq_some_iff.mp h
      obtain ⟨rfl, -⟩ := by simpa using h
      exact Value.isJson_ofEntries (ih.fields _ _ _ hr)
  · split at h
    · next found => exact isJson_of_readWord? (found.trans h)
    · split at h
      · exact isJson_of_readNumber? h
      · exact isJson_of_readNumber? h

theorem items_succ {cs rest : List Char} {xs : List Value}
    (h : readItems? (fuel + 1) cs = some (xs, rest)) :
    ∀ x ∈ xs, x.IsJson := by
  rw [readItems?] at h
  split at h
  · cases h
  · next x tail hx =>
    split at h
    · obtain ⟨rfl, -⟩ := by simpa using h
      exact List.forall_mem_singleton.mpr (ih.value _ _ _ hx)
    · obtain ⟨r, hr, h⟩ := Option.map_eq_some_iff.mp h
      obtain ⟨rfl, -⟩ := by simpa using h
      exact List.forall_mem_cons.mpr ⟨ih.value _ _ _ hx, ih.items _ _ _ hr⟩
    · cases h

theorem fields_succ {cs rest : List Char} {fs : Fields}
    (h : readFields? (fuel + 1) cs = some (fs, rest)) :
    ∀ e ∈ fs, e.2.IsJson := by
  rw [readFields?.eq_def] at h
  simp only at h
  split at h
  · split at h
    · cases h
    · split at h
      · split at h
        · cases h
        · next v tail hv =>
          split at h
          · obtain ⟨rfl, -⟩ := by simpa using h
            exact List.forall_mem_singleton.mpr (ih.value _ _ _ hv)
          · obtain ⟨r, hr, h⟩ := Option.map_eq_some_iff.mp h
            obtain ⟨rfl, -⟩ := by simpa using h
            exact List.forall_mem_cons.mpr ⟨ih.value _ _ _ hv, ih.fields _ _ _ hr⟩
          · cases h
      · cases h
  · cases h

end ReadsJson

/-- All that is read is JSON, whatever the fuel is. -/
theorem readsJson (fuel : ℕ) : ReadsJson fuel := by
  induction fuel with
  | zero => constructor <;> simp [readValue?, readItems?, readFields?]
  | succ fuel ih =>
    exact ⟨fun _ _ _ h => ih.value_succ h, fun _ _ _ h => ih.items_succ h,
      fun _ _ _ h => ih.fields_succ h⟩

/-- Every value that is read from a text is written and read back. -/
theorem isJson_of_readChars? {cs : List Char} {v : Value} (h : readChars? cs = some v) :
    v.IsJson := by
  unfold readChars? at h
  split at h
  · next found =>
    split at h
    · obtain rfl := Option.some.inj h
      exact (readsJson _).value _ _ _ found
    · cases h
  · cases h

end Json

end QuotationPress
