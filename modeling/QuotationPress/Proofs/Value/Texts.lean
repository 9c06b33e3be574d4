import Mathlib.Data.Int.Notation
import Mathlib.Order.Defs.LinearOrder
import QuotationPress.Context.Paths
import QuotationPress.Proofs.Outcome
import QuotationPress.Value.Json

/-!
# Which values have a text

`Value.succeeds_text_iff` says that all values have one but those that hold a whole number of too
many digits, and `Value.succeeds_toJson_iff` which values have a JSON text: those made of the kinds
that JSON has a form for.
-/

namespace QuotationPress

open Outcome (Succeeds succeeds_bind_iff_left succeeds_bind_iff_and)

/-- A whole number whose numeral is not too long. -/
def IsShort (i : ℤ) : Prop := digitCount i.natAbs ≤ numeralLimit

instance (i : ℤ) : Decidable (IsShort i) := inferInstanceAs (Decidable (_ ≤ _))

theorem succeeds_intText_iff {i : ℤ} : Succeeds (Value.intText i) ↔ IsShort i := by
  rw [IsShort, Value.intText]
  split
  · next long => exact iff_of_false Outcome.not_succeeds_error (Nat.not_le.mpr long)
  · next short => exact iff_of_true Outcome.succeeds_ok (Nat.not_lt.mp short)

namespace Value

/-! ### Texts -/

/-- No whole number in the value is too long. -/
inductive Short : Value → Prop
  | int {i : ℤ} (short : IsShort i) : Short (int i)
  | list {xs : List Value} (items : ∀ x ∈ xs, Short x) : Short (list xs)
  | tuple {xs : List Value} (items : ∀ x ∈ xs, Short x) : Short (tuple xs)
  | obj {fs : List (String × Value)} (values : ∀ e ∈ fs, Short e.2) : Short (obj fs)
  | keyed {es : List (Key × Value)} (values : ∀ e ∈ es, Short e.2) : Short (keyed es)
  | other {v : Value} (single : v.isContainer = false) (noWhole : ∀ i, v ≠ int i) : Short v

@[simp] theorem short_int {i : ℤ} : Short (int i) ↔ IsShort i := by
  refine ⟨fun h => ?_, .int⟩
  cases h with
  | int short => exact short
  | other _ noWhole => exact absurd rfl (noWhole i)

@[simp] theorem short_list {xs : List Value} : Short (list xs) ↔ ∀ x ∈ xs, Short x := by
  refine ⟨fun h => ?_, .list⟩
  cases h with
  | list items => exact items
  | other single => cases single

@[simp] theorem short_tuple {xs : List Value} : Short (tuple xs) ↔ ∀ x ∈ xs, Short x := by
  refine ⟨fun h => ?_, .tuple⟩
  cases h with
  | tuple items => exact items
  | other single => cases single

@[simp] theorem short_obj {fs : List (String × Value)} : Short (obj fs) ↔ ∀ e ∈ fs, Short e.2 := by
  refine ⟨fun h => ?_, .obj⟩
  cases h with
  | obj values => exact values
  | other single => cases single

@[simp] theorem short_keyed {es : List (Key × Value)} : Short (keyed es) ↔ ∀ e ∈ es, Short e.2 := by
  refine ⟨fun h => ?_, .keyed⟩
  cases h with
  | keyed values => exact values
  | other single => cases single

mutual

/-- A value can be listed exactly if no integer in it is too long. -/
theorem succeeds_listing_iff : ∀ v : Value, Succeeds v.listing ↔ v.Short
  | null => iff_of_true Outcome.succeeds_ok (.other rfl (by simp))
  | bool b => iff_of_true Outcome.succeeds_ok (.other rfl (by simp))
  | int i => succeeds_intText_iff.trans short_int.symm
  | float x => iff_of_true Outcome.succeeds_ok (.other rfl (by simp))
  | decimal d => iff_of_true Outcome.succeeds_ok (.other rfl (by simp))
  | date d => iff_of_true Outcome.succeeds_ok (.other rfl (by simp))
  | moment m => iff_of_true Outcome.succeeds_ok (.other rfl (by simp))
  | str s => iff_of_true Outcome.succeeds_ok (.other rfl (by simp))
  | list xs => by
    rw [listing, succeeds_bind_iff_left fun _ => Outcome.succeeds_pure, succeeds_listings_iff xs,
      short_list]
  | tuple [] => iff_of_true Outcome.succeeds_ok (.tuple (List.forall_mem_nil _))
  | tuple [x] => by
    rw [listing, succeeds_bind_iff_left fun _ => Outcome.succeeds_pure, succeeds_listing_iff x,
      short_tuple, List.forall_mem_singleton]
  | tuple (x :: y :: xs) => by
    rw [listing, succeeds_bind_iff_left fun _ => Outcome.succeeds_pure,
      succeeds_listings_iff (x :: y :: xs), short_tuple]
    all_goals simp
  | obj fs => by
    rw [listing, succeeds_bind_iff_left fun _ => Outcome.succeeds_pure,
      succeeds_fieldListings_iff fs, short_obj]
  | keyed es => by
    rw [listing, succeeds_bind_iff_left fun _ => Outcome.succeeds_pure,
      succeeds_entryListings_iff es, short_keyed]
  | bytes bs => iff_of_true Outcome.succeeds_ok (.other rfl (by simp))
  | keySet [] => iff_of_true Outcome.succeeds_ok (.other rfl (by simp))
  | keySet (k :: ks) => iff_of_true Outcome.succeeds_ok (.other rfl (by simp))

theorem succeeds_listings_iff : ∀ xs : List Value, Succeeds (listings xs) ↔ ∀ x ∈ xs, x.Short
  | [] => iff_of_true Outcome.succeeds_ok (List.forall_mem_nil _)
  | x :: rest => by
    rw [listings, List.forall_mem_cons, ← succeeds_listing_iff x, ← succeeds_listings_iff rest]
    exact succeeds_bind_iff_and fun _ _ => succeeds_bind_iff_left fun _ => Outcome.succeeds_pure

theorem succeeds_fieldListings_iff : ∀ fs : List (String × Value),
    Succeeds (fieldListings fs) ↔ ∀ e ∈ fs, e.2.Short
  | [] => iff_of_true Outcome.succeeds_ok (List.forall_mem_nil _)
  | (key, v) :: rest => by
    rw [fieldListings, List.forall_mem_cons, ← succeeds_listing_iff v,
      ← succeeds_fieldListings_iff rest]
    exact succeeds_bind_iff_and fun _ _ => succeeds_bind_iff_left fun _ => Outcome.succeeds_pure

theorem succeeds_entryListings_iff : ∀ es : List (Key × Value),
    Succeeds (entryListings es) ↔ ∀ e ∈ es, e.2.Short
  | [] => iff_of_true Outcome.succeeds_ok (List.forall_mem_nil _)
  | (key, v) :: rest => by
    rw [entryListings, List.forall_mem_cons, ← succeeds_listing_iff v,
      ← succeeds_entryListings_iff rest]
    exact succeeds_bind_iff_and fun _ _ => succeeds_bind_iff_left fun _ => Outcome.succeeds_pure

end

/-- A value has a text unless a whole number in it is too long. -/
theorem succeeds_text_iff {v : Value} : Succeeds v.text ↔ v.Short := by
  cases v with
  | str s => exact iff_of_true Outcome.succeeds_ok (.other rfl (by simp))
  | decimal d => exact iff_of_true Outcome.succeeds_ok (.other rfl (by simp))
  | date d => exact iff_of_true Outcome.succeeds_ok (.other rfl (by simp))
  | moment m => exact iff_of_true Outcome.succeeds_ok (.other rfl (by simp))
  | _ => exact succeeds_listing_iff _

end Value

/-! ### JSON texts -/

/-- JSON has no form for days and moments as keys, nor for whole numbers that are too long. -/
inductive Key.Storable : Key → Prop
  | text (s : String) : Storable (text s)
  | null : Storable null
  | bool (b : Bool) : Storable (bool b)
  | int {i : ℤ} (short : IsShort i) : Storable (int i)
  | float (x : Binary64) : Storable (float x)

/-- A key can be written exactly if JSON has a form for it. -/
theorem Json.succeeds_keyText_iff {key : Key} : Succeeds (keyText key) ↔ key.Storable := by
  cases key with
  | text s => exact iff_of_true Outcome.succeeds_ok (.text s)
  | null => exact iff_of_true Outcome.succeeds_ok .null
  | bool b => exact iff_of_true Outcome.succeeds_ok (.bool b)
  | int i =>
    refine succeeds_intText_iff.trans ⟨.int, fun h => ?_⟩
    cases h with
    | int short => exact short
  | float x => exact iff_of_true Outcome.succeeds_ok (.float x)
  | date d => exact iff_of_false Outcome.not_succeeds_error (by rintro ⟨⟩)
  | moment m => exact iff_of_false Outcome.not_succeeds_error (by rintro ⟨⟩)

namespace Value

/-- The value is made of the kinds that JSON has a form for: no days and moments, decimals, bytes
and sets. -/
inductive Storable : Value → Prop
  | null : Storable null
  | bool (b : Bool) : Storable (bool b)
  | int {i : ℤ} (short : IsShort i) : Storable (int i)
  | float (x : Binary64) : Storable (float x)
  | str (s : String) : Storable (str s)
  | list {xs : List Value} (items : ∀ x ∈ xs, Storable x) : Storable (list xs)
  | tuple {xs : List Value} (items : ∀ x ∈ xs, Storable x) : Storable (tuple xs)
  | obj {fs : List (String × Value)} (values : ∀ e ∈ fs, Storable e.2) : Storable (obj fs)
  | keyed {es : List (Key × Value)} (keys : ∀ e ∈ es, e.1.Storable)
      (values : ∀ e ∈ es, Storable e.2) :
      Storable (keyed es)

@[simp] theorem storable_int {i : ℤ} : Storable (int i) ↔ IsShort i := by
  refine ⟨fun h => ?_, .int⟩
  cases h with
  | int short => exact short

@[simp] theorem storable_list {xs : List Value} : Storable (list xs) ↔ ∀ x ∈ xs, Storable x := by
  refine ⟨fun h => ?_, .list⟩
  cases h with
  | list items => exact items

@[simp] theorem storable_tuple {xs : List Value} : Storable (tuple xs) ↔ ∀ x ∈ xs, Storable x := by
  refine ⟨fun h => ?_, .tuple⟩
  cases h with
  | tuple items => exact items

@[simp] theorem storable_obj {fs : List (String × Value)} :
    Storable (obj fs) ↔ ∀ e ∈ fs, Storable e.2 := by
  refine ⟨fun h => ?_, .obj⟩
  cases h with
  | obj values => exact values

@[simp] theorem storable_keyed {es : List (Key × Value)} :
    Storable (keyed es) ↔ ∀ e ∈ es, e.1.Storable ∧ Storable e.2 := by
  refine ⟨fun h => ?_, fun h => .keyed (fun e he => (h e he).1) fun e he => (h e he).2⟩
  cases h with
  | keyed keys values => exact fun e he => ⟨keys e he, values e he⟩

mutual

/-- A value has a JSON text exactly if it is made of what JSON has a form for. -/
theorem succeeds_toJson_iff : ∀ v : Value, Succeeds v.toJson ↔ v.Storable
  | null => iff_of_true Outcome.succeeds_ok .null
  | bool b => iff_of_true Outcome.succeeds_ok (.bool b)
  | int i => succeeds_intText_iff.trans storable_int.symm
  | float x => iff_of_true Outcome.succeeds_ok (.float x)
  | str s => iff_of_true Outcome.succeeds_ok (.str s)
  | list xs => by
    rw [toJson, succeeds_bind_iff_left fun _ => Outcome.succeeds_pure, succeeds_itemsToJson_iff xs,
      storable_list]
  | tuple xs => by
    rw [toJson, succeeds_bind_iff_left fun _ => Outcome.succeeds_pure, succeeds_itemsToJson_iff xs,
      storable_tuple]
  | obj fs => by
    rw [toJson, succeeds_bind_iff_left fun _ => Outcome.succeeds_pure, succeeds_fieldsToJson_iff fs,
      storable_obj]
  | keyed es => by
    rw [toJson, succeeds_bind_iff_left fun _ => Outcome.succeeds_pure,
      succeeds_entriesToJson_iff es, storable_keyed]
  | decimal d => iff_of_false Outcome.not_succeeds_error (by rintro ⟨⟩)
  | date d => iff_of_false Outcome.not_succeeds_error (by rintro ⟨⟩)
  | moment m => iff_of_false Outcome.not_succeeds_error (by rintro ⟨⟩)
  | bytes bs => iff_of_false Outcome.not_succeeds_error (by rintro ⟨⟩)
  | keySet ks => iff_of_false Outcome.not_succeeds_error (by rintro ⟨⟩)

theorem succeeds_itemsToJson_iff :
    ∀ xs : List Value, Succeeds (itemsToJson xs) ↔ ∀ x ∈ xs, x.Storable
  | [] => iff_of_true Outcome.succeeds_ok (List.forall_mem_nil _)
  | x :: rest => by
    rw [itemsToJson, List.forall_mem_cons, ← succeeds_toJson_iff x, ← succeeds_itemsToJson_iff rest]
    exact succeeds_bind_iff_and fun _ _ => succeeds_bind_iff_left fun _ => Outcome.succeeds_pure

theorem succeeds_fieldsToJson_iff : ∀ fs : List (String × Value),
    Succeeds (fieldsToJson fs) ↔ ∀ e ∈ fs, e.2.Storable
  | [] => iff_of_true Outcome.succeeds_ok (List.forall_mem_nil _)
  | (key, v) :: rest => by
    rw [fieldsToJson, List.forall_mem_cons, ← succeeds_toJson_iff v,
      ← succeeds_fieldsToJson_iff rest]
    exact succeeds_bind_iff_and fun _ _ => succeeds_bind_iff_left fun _ => Outcome.succeeds_pure

theorem succeeds_entriesToJson_iff : ∀ es : List (Key × Value),
    Succeeds (entriesToJson es) ↔ ∀ e ∈ es, e.1.Storable ∧ e.2.Storable
  | [] => iff_of_true Outcome.succeeds_ok (List.forall_mem_nil _)
  | (key, v) :: rest => by
    rw [entriesToJson, List.forall_mem_cons, ← Json.succeeds_keyText_iff, ← succeeds_toJson_iff v,
      ← succeeds_entriesToJson_iff rest, and_assoc]
    exact succeeds_bind_iff_and fun _ _ => succeeds_bind_iff_and fun _ _ =>
      succeeds_bind_iff_left fun _ => Outcome.succeeds_pure

end

end Value

end QuotationPress
