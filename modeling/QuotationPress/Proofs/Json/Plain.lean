import QuotationPress.Proofs.Json.Embedded
import QuotationPress.Proofs.Json.Records
import QuotationPress.Value.JsonForm
import QuotationPress.Value.Members

/-!
# Data of the kinds that JSON has, whatever the size of their numbers

`Value.MadeOf` says of which floating point numbers such data are made; `Value.IsPlain` allows all
of them and `Value.IsFinite` those that JSON has a form for. Plain data leave the library as they
are exactly if they are finite: `Value.IsPlain.jsonForm_eq_self_iff`.
-/

namespace QuotationPress

namespace Value

/-- A value of the kinds that JSON has; its floating point numbers are like that. -/
inductive MadeOf (number : Binary64 → Prop) : Value → Prop
  | null : MadeOf number null
  | bool (b : Bool) : MadeOf number (bool b)
  | int (i : ℤ) : MadeOf number (int i)
  | float {x : Binary64} (h : number x) : MadeOf number (float x)
  | str (s : String) : MadeOf number (str s)
  | list {xs : List Value} (items : ∀ x ∈ xs, MadeOf number x) : MadeOf number (list xs)
  | obj {fs : List (String × Value)} (values : ∀ e ∈ fs, MadeOf number e.2) : MadeOf number (obj fs)

/-- A value of the kinds that JSON has. -/
abbrev IsPlain (v : Value) : Prop := v.MadeOf fun _ => True

/-- A value of the kinds that JSON has, without a floating point number that is infinite or none. -/
abbrev IsFinite (v : Value) : Prop := v.MadeOf fun x => x.isFinite = true

attribute [simp] MadeOf.null MadeOf.bool MadeOf.int MadeOf.str

variable {number : Binary64 → Prop} {v w : Value} {fs : Fields}

@[simp] theorem madeOf_float {x : Binary64} : (float x).MadeOf number ↔ number x :=
  ⟨fun | .float h => h, .float⟩

@[simp] theorem madeOf_list {xs : List Value} :
    (list xs).MadeOf number ↔ ∀ x ∈ xs, x.MadeOf number :=
  ⟨fun | .list items => items, .list⟩

@[simp] theorem madeOf_obj : (obj fs).MadeOf number ↔ ∀ e ∈ fs, e.2.MadeOf number :=
  ⟨fun | .obj values => values, .obj⟩

theorem isPlain_obj : (obj fs).IsPlain ↔ ∀ e ∈ fs, e.2.IsPlain := madeOf_obj

/-- What JSON has is plain. -/
theorem IsJson.isPlain (h : v.IsJson) : v.IsPlain := by
  induction h with
  | null => exact .null
  | bool b => exact .bool b
  | int _ => exact .int _
  | float _ => exact .float trivial
  | str s => exact .str s
  | list _ ih => exact .list ih
  | obj _ _ ih => exact .obj ih

/-! ### Entries -/

/-- The entries of an object; of anything else none. -/
theorem MadeOf.fields (h : v.MadeOf number) : ∀ e ∈ v.fields?.getD [], e.2.MadeOf number := by
  cases h with
  | obj values => exact values
  | _ => exact nofun

theorem MadeOf.get (h : (Value.obj fs).MadeOf number) (key : String) :
    (Fields.get fs key).MadeOf number := by
  unfold Fields.get
  cases found : fs.get? key with
  | none => exact .null
  | some v =>
    obtain ⟨before, behind, rfl, -⟩ := List.lookup_eq_some_iff.mp found
    exact madeOf_obj.mp h (key, v) (by simp)

/-- What a container holds is made of the same numbers. -/
theorem MadeOf.members (h : v.MadeOf number) {xs : List Value} (found : v.members = .ok xs) :
    ∀ x ∈ xs, x.MadeOf number := by
  cases h with
  | list items => exact Except.ok.inj found ▸ items
  | str s =>
    rw [← Except.ok.inj found, List.forall_mem_map]
    exact fun c _ => .str _
  | obj _ =>
    rw [← Except.ok.inj found, List.forall_mem_map]
    exact fun e _ => .str _
  | _ => cases found

theorem madeOf_overlay {lower upper : Fields} (h : (obj lower).MadeOf number)
    (more : (obj upper).MadeOf number) :
    (obj (Fields.overlay lower upper)).MadeOf number := by
  rw [madeOf_obj] at *
  induction upper generalizing lower with
  | nil => exact h
  | cons e rest ih =>
    rw [List.forall_mem_cons] at more
    exact ih (Fields.values_put h e.1 more.1) more.2

/-! ### Decoded values -/

/-- What is read of an embedded text is plain. -/
theorem IsPlain.decodedValue (h : v.IsPlain) : (decodedValue v).IsPlain := by
  cases h with
  | str s => exact (isJson_decodedValue (.str s)).isPlain
  | null => exact .null
  | bool b => exact .bool b
  | int i => exact .int i
  | float h => exact .float h
  | list items => exact .list items
  | obj values => exact .obj values

/-- Plain values are kept by all that the readers of records do. -/
theorem isSort_isPlain : IsSort IsPlain where
  null := .null
  nil := .obj nofun
  decoded := IsPlain.decodedValue
  fields found h := by
    have values := h.fields
    rw [found] at values
    exact .obj values
  items {v xs} listed h := by
    cases h with
    | list items => exact Checked.good.inj listed ▸ items
    | _ => cases listed
  values := isPlain_obj.mp
  filter keep h := .obj fun e he => isPlain_obj.mp h e (List.mem_of_mem_filter he)

/-! ### The form in which values leave -/

theorem jsonForms_eq_self_iff {xs : List Value} : jsonForms xs = xs ↔ ∀ x ∈ xs, x.jsonForm = x := by
  induction xs with
  | nil => exact iff_of_true rfl nofun
  | cons x rest ih => rw [jsonForms, List.cons.injEq, ih, List.forall_mem_cons]

theorem jsonFormFields_eq_self_iff : jsonFormFields fs = fs ↔ ∀ e ∈ fs, e.2.jsonForm = e.2 := by
  induction fs with
  | nil => exact iff_of_true rfl nofun
  | cons e rest ih =>
    rw [jsonFormFields, List.cons.injEq, ih, List.forall_mem_cons, Prod.ext_iff, and_iff_right rfl]

/-- The JSON form is the value itself exactly if its numbers are finite. -/
theorem IsPlain.jsonForm_eq_self_iff (h : v.IsPlain) : v.jsonForm = v ↔ v.IsFinite := by
  induction h with
  | null => exact iff_of_true rfl .null
  | bool b => exact iff_of_true rfl (.bool b)
  | int i => exact iff_of_true rfl (.int i)
  | @float x _ =>
    rw [IsFinite, madeOf_float, jsonForm]
    split
    · next finite => exact iff_of_true rfl finite
    · next other => exact iff_of_false nofun other
  | str s => exact iff_of_true rfl (.str s)
  | list _ ih =>
    rw [jsonForm, list.injEq, jsonForms_eq_self_iff, IsFinite, madeOf_list]
    exact forall₂_congr ih
  | obj _ ih =>
    rw [jsonForm, obj.injEq, jsonFormFields_eq_self_iff, IsFinite, madeOf_obj]
    exact forall₂_congr ih

end Value

end QuotationPress
