import QuotationPress.Proofs.Checked
import QuotationPress.Proofs.Json.RoundTrip
import QuotationPress.Store.Draft

/-!
# What the lenient readers make of values that JSON has

Of values of the kinds that JSON has, only a text is read as a text, only an object as an object,
only a list as a list, and each is taken as it is.
-/

namespace QuotationPress.Lenient

variable {v : Value}

theorem eq_str_of_text (json : v.IsJson) {s : String} (h : text v = .good s) : v = .str s := by
  cases json <;> simp_all [text, textIn?, Checked.fault]

theorem eq_obj_of_object (json : v.IsJson) {fs : Fields} (h : object v = .good fs) :
    v = .obj fs := by
  cases json <;> simp_all [object, Value.fields?, strayIssues, Value.strayKeys, Checked.fault]

theorem eq_obj_of_record (json : v.IsJson) {model : String} {fs : Fields}
    (h : record model v = .good fs) :
    v = .obj fs := by
  cases json <;> simp_all [record, Value.fields?, Checked.fault]

theorem eq_list_of_list (json : v.IsJson) {xs : List Value} (h : list v = .good xs) :
    v = .list xs := by
  cases json <;> simp_all [list, Checked.fault]

theorem eq_map_obj_of_eachFrom {xs : List Value} (json : ∀ x ∈ xs, x.IsJson) {i : Nat}
    {given : List Fields} (h : Checked.eachFrom (fun _ => object) i xs = .good given) :
    xs = given.map Value.obj := by
  induction xs generalizing i given with
  | nil =>
    obtain rfl := Checked.good.inj h
    rfl
  | cons x rest ih =>
    rw [List.forall_mem_cons] at json
    obtain ⟨fs, more, hx, hrest, rfl⟩ := Checked.eachFrom_cons_eq_good.mp h
    rw [List.map_cons, ← eq_obj_of_object json.1 hx, ← ih json.2 hrest]

theorem eq_list_of_objects (json : v.IsJson) {given : List Fields} (h : objects v = .good given) :
    v = .list (given.map Value.obj) := by
  obtain ⟨xs, listed, each⟩ := Checked.andThen_eq_good.mp h
  obtain rfl := eq_list_of_list json listed
  cases json with
  | list items => rw [eq_map_obj_of_eachFrom items each]

end QuotationPress.Lenient
