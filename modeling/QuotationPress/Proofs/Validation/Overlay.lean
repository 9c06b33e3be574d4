import QuotationPress.Proofs.Checked

/-!
# Records laid over records

Entries are laid over each other key by key, and only the record that comes out is read, each field
under two spellings: an entry in camel case outlives a plain one that is laid over it, which is then
`Shadowed`. `RecordField` is a field of a checked record, how it is read and where it is kept, and
`RecordField.Accounts` says that a reader does nothing but read such fields.
`RecordField.Accounts.overlay` gives every field of a record that comes out of two.
-/

namespace QuotationPress

/-! ### Entries -/

namespace Fields

variable {fs lower upper : Fields} {key name : String}

theorem get?_eq_none : fs.get? key = none ↔ key ∉ fs.map Prod.fst := by
  induction fs with
  | nil => simp
  | cons e rest ih =>
    obtain ⟨k, v⟩ := e
    rw [get?_cons, List.map_cons, List.mem_cons, not_or, ← ih]
    by_cases h : key = k <;> simp [h]

/-- An entry of the upper fields hides that of the lower ones. -/
theorem get?_overlay (distinct : (upper.map Prod.fst).Nodup) (key : String) :
    (overlay lower upper).get? key = (upper.get? key).or (lower.get? key) := by
  induction upper generalizing lower with
  | nil => rfl
  | cons e rest ih =>
    obtain ⟨k, v⟩ := e
    obtain ⟨fresh, distinct⟩ := List.nodup_cons.mp distinct
    show (overlay (lower.put k v) rest).get? key = _
    rw [ih distinct, get?_cons]
    by_cases h : key = k
    · rw [h, get?_eq_none.mpr fresh, get?_put_self, if_pos rfl]
      rfl
    · rw [get?_put_of_ne h, if_neg h]

/-- A key that is not laid over keeps its value. -/
theorem get?_overlay_of_absent (absent : upper.get? key = none) :
    (overlay lower upper).get? key = lower.get? key := by
  induction upper generalizing lower with
  | nil => rfl
  | cons e rest ih =>
    obtain ⟨k, v⟩ := e
    rw [get?_cons] at absent
    split at absent
    · cases absent
    · next other =>
      show (overlay (lower.put k v) rest).get? key = _
      rw [ih absent, get?_put_of_ne other]

/-- There is an entry for the field, in one spelling or the other. -/
def Names (fs : Fields) (name : String) : Prop := (Spelling.camel.find? fs name).isSome

theorem Names.of_camel (given : fs.has (camelCase name)) : fs.Names name := by
  rw [Names, Spelling.find?, Option.isSome_or]
  exact Bool.or_eq_true_iff.mpr (.inl given)

/-- `upper` names the field in the plain spelling only, and `lower` in camel case. -/
def Shadowed (lower upper : Fields) (name : String) : Prop :=
  upper.get? (camelCase name) = none ∧ upper.Names name ∧ (lower.get? (camelCase name)).isSome

instance (fs : Fields) (name : String) : Decidable (fs.Names name) :=
  inferInstanceAs (Decidable (_ = true))

instance (lower upper : Fields) (name : String) : Decidable (Shadowed lower upper name) :=
  inferInstanceAs (Decidable (_ ∧ _ ∧ _))

/-- The plain entry does not count where it is shadowed; in all else the upper record comes
first. -/
theorem find?_overlay (distinct : (upper.map Prod.fst).Nodup) (name : String) :
    Spelling.camel.find? (overlay lower upper) name =
      if Shadowed lower upper name then Spelling.camel.find? lower name
      else (Spelling.camel.find? upper name).or (Spelling.camel.find? lower name) := by
  simp only [Shadowed, Names, Spelling.find?, get?_overlay distinct]
  rcases Option.eq_none_or_eq_some (upper.get? (camelCase name)) with plain | ⟨v, camel⟩
  · rcases Option.eq_none_or_eq_some (upper.get? name) with unnamed | ⟨w, named⟩
    · simp [plain, unnamed]
    · rcases Option.eq_none_or_eq_some (lower.get? (camelCase name)) with below | ⟨u, below⟩
      · simp [plain, named, below]
      · simp [plain, named, below]
  · simp [camel]

end Fields

/-! ### Fields of records -/

/-- A field of a record: its name, what stands in for a missing entry, how an entry is read, and
where the record keeps what was read. -/
structure RecordField (R : Type) where
  {α : Type}
  name : String
  fallback : α
  read : Value → Checked α
  get : R → α

namespace RecordField

variable {R : Type}

/-- What an entry, or the lack of one, says about the field. -/
def meaning (f : RecordField R) : Option Value → Checked f.α
  | some v => f.read v
  | none => .good f.fallback

/-- What the entries say about the field stands in the record. -/
def Holds (f : RecordField R) (fs : Fields) (r : R) : Prop :=
  f.meaning (Spelling.camel.find? fs f.name) = .good (f.get r)

theorem holds_mk {α : Type} {name : String} {fallback : α} {read : Value → Checked α} {get : R → α}
    {fs : Fields} {r : R} : (RecordField.mk name fallback read get).Holds fs r ↔
      Checked.optional .camel fs name fallback read = .good (get r) := by
  rw [Checked.optional_eq_good, Holds]
  cases Spelling.camel.find? fs name <;> simp [meaning]

theorem isGood_meaning {f : RecordField R} {given : Option Value} :
    (f.meaning given).IsGood ↔ ∀ v, given = some v → (f.read v).IsGood := by
  cases given <;> simp [meaning]

/-- The fields account for a reader of records: it succeeds when each of them can be read, with the
record that holds them all. -/
structure Accounts (fields : List (RecordField R)) (read : Fields → Checked R) : Prop where
  holds : ∀ fs r, read fs = .good r ↔ ∀ f ∈ fields, f.Holds fs r
  isGood : ∀ fs, (read fs).IsGood ↔
    ∀ f ∈ fields, (f.meaning (Spelling.camel.find? fs f.name)).IsGood

variable {fields : List (RecordField R)} {read : Fields → Checked R} {lower upper : Fields}
    {own above : R}

/-- A field of the record on top counts where it is named and not shadowed. What is named on top
counts exactly if it is not shadowed, or says the same as what lies below. -/
theorem Accounts.overlay (reads : Accounts fields read) (distinct : (upper.map Prod.fst).Nodup)
    (hlower : read lower = .good own) (hupper : read upper = .good above) :
    ∃ whole, read (Fields.overlay lower upper) = .good whole ∧ ∀ f ∈ fields,
      (f.get whole =
          if upper.Names f.name ∧ ¬ Fields.Shadowed lower upper f.name then f.get above
          else f.get own) ∧
      (f.get whole = (if upper.Names f.name then f.get above else f.get own) ↔
        (Fields.Shadowed lower upper f.name → f.get own = f.get above)) := by
  -- by what is found: shadowed by the lower fields, named by the upper ones, or neither
  have meaning_overlay : ∀ f ∈ fields,
      f.meaning (Spelling.camel.find? (Fields.overlay lower upper) f.name) =
        .good
          (if upper.Names f.name ∧ ¬ Fields.Shadowed lower upper f.name then f.get above
            else f.get own) := by
    intro f hf
    have below := (reads.holds ..).mp hlower f hf
    have top := (reads.holds ..).mp hupper f hf
    rw [Fields.find?_overlay distinct]
    by_cases shadowed : Fields.Shadowed lower upper f.name
    · rw [if_pos shadowed, if_neg fun h => h.2 shadowed]
      exact below
    · rw [if_neg shadowed]
      by_cases named : upper.Names f.name
      · obtain ⟨v, hv⟩ := Option.isSome_iff_exists.mp named
        rw [Holds, hv] at top
        rw [hv, if_pos ⟨named, shadowed⟩]
        exact top
      · rw [Option.not_isSome_iff_eq_none.mp named, if_neg fun h => named h.1]
        exact below
  obtain ⟨whole, hwhole⟩ := (reads.isGood _).mpr fun f hf => ⟨_, meaning_overlay f hf⟩
  refine ⟨whole, hwhole, fun f hf => ?_⟩
  have value : f.get whole = _ :=
    Checked.good.inj (((reads.holds ..).mp hwhole f hf).symm.trans (meaning_overlay f hf))
  refine ⟨value, ?_⟩
  rw [value]
  by_cases shadowed : Fields.Shadowed lower upper f.name
  · simp [shadowed, shadowed.2.1]
  · simp [shadowed]

end RecordField

end QuotationPress
