import QuotationPress.Proofs.Outcome
import QuotationPress.Validation.Checked

/-!
# When a check finds nothing wrong

For every combinator of `Checked` there is a lemma that says when its result is good, and with which
value: `Checked.seq_eq_good` takes a record apart field by field, `optional_eq_good` goes from a
field to the entry it is read from.
-/

namespace QuotationPress.Checked

variable {α β : Type} {x : Checked α} {a : α} {b : β}

theorem map_eq_good {f : α → β} : f <$> x = good b ↔ ∃ a, x = good a ∧ f a = b := by
  cases x <;> simp [Functor.map, map]

theorem seq_eq_good {f : Checked (α → β)} :
    f <*> x = good b ↔ ∃ g a, f = good g ∧ x = good a ∧ g a = b := by
  cases f <;> cases x <;> simp [Seq.seq, ap]

theorem andThen_eq_good {f : α → Checked β} :
    x.andThen f = good b ↔ ∃ a, x = good a ∧ f a = good b := by
  cases x <;> simp [andThen]

@[simp] theorem under_eq_good {name : String} : x.under name = good a ↔ x = good a := by
  cases x <;> simp [under]

/-- A field that is not given has its fallback. -/
theorem optional_eq_good {sp : Spelling} {fs : Fields} {name : String} {fallback : α}
    {read : Value → Checked α} : optional sp fs name fallback read = good a ↔
      (∃ v, sp.find? fs name = some v ∧ read v = good a) ∨ sp.find? fs name = none ∧
      fallback = a := by
  unfold optional field
  cases sp.find? fs name <;> simp

theorem required_eq_good {sp : Spelling} {fs : Fields} {name : String} {read : Value → Checked α} :
    required sp fs name read = good a ↔ ∃ v, sp.find? fs name = some v ∧ read v = good a := by
  unfold required field
  cases sp.find? fs name with
  | none => simp [fault, under]
  | some v => simp

theorem eachFrom_cons_eq_good {read : Nat → Value → Checked α} {i : Nat} {v : Value}
    {vs : List Value} {as : List α} : eachFrom read i (v :: vs) = good as ↔
      ∃ a rest, read i v = good a ∧ eachFrom read (i + 1) vs = good rest ∧ as = a :: rest := by
  rw [eachFrom, numbered]
  cases read i v <;> cases eachFrom read (i + 1) vs <;> simp [map, ap, under, eq_comm]

theorem mem_of_eachFrom_eq_good {read : Nat → Value → Checked α} {i : Nat} {vs : List Value}
    {as : List α} (h : eachFrom read i vs = good as) (ha : a ∈ as) :
    ∃ j, ∃ v ∈ vs, read j v = good a := by
  induction vs generalizing i as with
  | nil =>
    obtain rfl := good.inj h
    cases ha
  | cons v rest ih =>
    obtain ⟨b, bs, hb, hrest, rfl⟩ := eachFrom_cons_eq_good.mp h
    obtain rfl | ha := List.mem_cons.mp ha
    · exact ⟨i, v, List.mem_cons_self .., hb⟩
    · obtain ⟨j, w, hw, hread⟩ := ih hrest ha
      exact ⟨j, w, List.mem_cons_of_mem _ hw, hread⟩

/-! ### Values that are found

A chain of `<*>` becomes a chain of `Option.bind`, which `simp` takes apart with every part named
once. -/

theorem value?_eq_some : x.value? = some a ↔ x = good a := by
  cases x <;> simp [value?]

theorem value?_map (f : α → β) (x : Checked α) :
    (f <$> x).value? = x.value?.bind fun a => some (f a) := by
  cases x <;> rfl

theorem value?_seq (f : Checked (α → β)) (x : Checked α) :
    (f <*> x).value? = f.value?.bind fun g => x.value?.bind fun a => some (g a) := by
  cases f <;> cases x <;> rfl

/-! ### Checks that are passed -/

/-- Nothing is wrong. -/
def IsGood (x : Checked α) : Prop := ∃ a, x = good a

@[simp] theorem isGood_good : (good a).IsGood := ⟨a, rfl⟩

@[simp] theorem not_isGood_fault {f : Fault} : ¬ (fault f : Checked α).IsGood :=
  fun ⟨_, h⟩ => nomatch h

@[simp] theorem isGood_map {f : α → β} : (f <$> x).IsGood ↔ x.IsGood := by
  cases x <;> simp [IsGood, Functor.map, map]

@[simp] theorem isGood_seq {f : Checked (α → β)} : (f <*> x).IsGood ↔ f.IsGood ∧ x.IsGood := by
  cases f <;> cases x <;> simp [IsGood, Seq.seq, ap]

@[simp] theorem isGood_under {name : String} : (x.under name).IsGood ↔ x.IsGood := by
  simp [IsGood]

theorem succeeds_outcome {model : String} : Outcome.Succeeds (x.outcome model) ↔ x.IsGood := by
  simp [Outcome.Succeeds, IsGood, outcome_eq_ok_iff]

/-- An optional field is good unless it is given and cannot be read. -/
theorem isGood_optional {sp : Spelling} {fs : Fields} {name : String} {fallback : α}
    {read : Value → Checked α} : (optional sp fs name fallback read).IsGood ↔
      ∀ v, sp.find? fs name = some v → (read v).IsGood := by
  unfold optional field
  cases sp.find? fs name <;> simp

theorem isGood_required {sp : Spelling} {fs : Fields} {name : String} {read : Value → Checked α} :
    (required sp fs name read).IsGood ↔ ∃ v, sp.find? fs name = some v ∧ (read v).IsGood := by
  unfold required field
  cases sp.find? fs name <;> simp

theorem isGood_eachFrom_cons {read : Nat → Value → Checked α} {i : Nat} {v : Value}
    {vs : List Value} :
    (eachFrom read i (v :: vs)).IsGood ↔ (read i v).IsGood ∧ (eachFrom read (i + 1) vs).IsGood := by
  rw [eachFrom, numbered]
  cases read i v <;> cases eachFrom read (i + 1) vs <;> simp [IsGood, map, ap, under]

end QuotationPress.Checked
