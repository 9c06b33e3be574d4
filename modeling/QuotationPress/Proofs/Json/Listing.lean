import QuotationPress.Proofs.Json.RoundTrip

/-!
# Values of the kinds that JSON has are shown as texts

Every value of a kind that JSON has can be shown as a text: `IsJson.succeeds_text`.
-/

namespace QuotationPress

theorem Fields.mem_of_get? {fs : Fields} {key : String} {v : Value} (h : fs.get? key = some v) :
    (key, v) ∈ fs := by
  obtain ⟨before, behind, rfl, -⟩ := List.lookup_eq_some_iff.mp h
  simp

theorem Fields.get_of_get? {fs : Fields} {key : String} {v : Value} (h : fs.get? key = some v) :
    fs.get key = v := by
  rw [get, h, Option.getD_some]

namespace Value

open Outcome (Succeeds succeeds_bind_iff_left)

theorem eq_null_of_isNull {v : Value} (h : v.isNull = true) : v = null := by
  cases v <;> first | rfl | cases h

theorem succeeds_listings {xs : List Value} (h : ∀ x ∈ xs, Succeeds x.listing) :
    Succeeds (listings xs) := by
  induction xs with
  | nil => exact ⟨_, rfl⟩
  | cons x rest ih =>
    rw [List.forall_mem_cons] at h
    obtain ⟨s, hs⟩ := h.1
    obtain ⟨ss, hss⟩ := ih h.2
    exact ⟨s :: ss, by rw [listings, hs, hss]; rfl⟩

theorem succeeds_fieldListings {fs : List (String × Value)} (h : ∀ e ∈ fs, Succeeds e.2.listing) :
    Succeeds (fieldListings fs) := by
  induction fs with
  | nil => exact ⟨_, rfl⟩
  | cons e rest ih =>
    rw [List.forall_mem_cons] at h
    obtain ⟨s, hs⟩ := h.1
    obtain ⟨ss, hss⟩ := ih h.2
    exact ⟨(Text.quoted e.1 ++ ": " ++ s) :: ss, by rw [fieldListings, hs, hss]; rfl⟩

theorem IsJson.succeeds_listing {v : Value} (h : v.IsJson) : Succeeds v.listing := by
  induction h with
  | null => exact ⟨_, rfl⟩
  | bool b => exact ⟨_, rfl⟩
  | @int i short => exact ⟨_, by rw [listing, intText, if_neg (not_lt.mpr short)]⟩
  | float one => exact ⟨_, rfl⟩
  | str s => exact ⟨_, rfl⟩
  | list _ ih =>
    obtain ⟨ss, hss⟩ := succeeds_listings ih
    exact ⟨_, by rw [listing, hss]; rfl⟩
  | obj _ _ ih =>
    obtain ⟨ss, hss⟩ := succeeds_fieldListings ih
    exact ⟨_, by rw [listing, hss]; rfl⟩

/-- A value that JSON has can be written as a text. -/
theorem IsJson.succeeds_text {v : Value} (h : v.IsJson) : Succeeds v.text := by
  cases h with
  | str s => exact ⟨s, rfl⟩
  | null => exact IsJson.null.succeeds_listing
  | bool b => exact (IsJson.bool b).succeeds_listing
  | int short => exact (IsJson.int short).succeeds_listing
  | float one => exact (IsJson.float one).succeeds_listing
  | list items => exact (IsJson.list items).succeeds_listing
  | obj distinct values => exact (IsJson.obj distinct values).succeeds_listing

/-! ### Entries -/

theorem isJson_nil : (obj []).IsJson := .obj List.nodup_nil nofun

/-- The entries of an object; of anything else none. -/
theorem IsJson.fields {v : Value} (json : v.IsJson) : (Value.obj (v.fields?.getD [])).IsJson := by
  cases json with
  | obj distinct values => exact .obj distinct values
  | _ => exact isJson_nil

theorem IsJson.orElse {v w : Value} (json : v.IsJson) (other : w.IsJson) : (v.orElse w).IsJson := by
  unfold Value.orElse
  split
  · exact json
  · exact other

theorem IsJson.of_get? {fs : Fields} (h : (Value.obj fs).IsJson) {key : String} {v : Value}
    (found : fs.get? key = some v) : v.IsJson := by
  cases h with
  | obj _ values => exact values _ (Fields.mem_of_get? found)

theorem IsJson.get {fs : Fields} (h : (Value.obj fs).IsJson) (key : String) :
    (Fields.get fs key).IsJson := by
  unfold Fields.get
  cases found : fs.get? key with
  | none => exact .null
  | some v => exact h.of_get? found

end Value

end QuotationPress
