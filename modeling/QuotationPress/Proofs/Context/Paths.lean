import QuotationPress.Context.Paths
import QuotationPress.Proofs.Json.Listing
import QuotationPress.Proofs.Json.Reading

/-!
# Where dotted paths lead

A path that leads nowhere ends at null, and there is one way only in which following it fails,
`Value.Stumbles`: a step into a list that looks like a position and cannot be read as one. Whatever
is found in data of the kinds that JSON has is of these kinds too.
-/

namespace QuotationPress

open Outcome (Succeeds)

/-- A step that looks like the position of an item and cannot be read as one: one of its digits has
no place value, or there are too many of them. -/
structure MisreadIndex (step : String) : Prop where
  nonempty : step.toList ≠ []
  digits : ∀ c ∈ step.toList, Text.isDigitLike c = true
  flaw : (∃ c ∈ step.toList, Text.isDecimal c = false) ∨ numeralLimit < step.toList.length

/-- A step can be read as a position, or as none, unless it is misread. -/
theorem succeeds_indexOfStep?_iff (step : String) :
    Succeeds (indexOfStep? step) ↔ ¬ MisreadIndex step := by
  unfold indexOfStep?
  dsimp only
  -- no digits, digits without a place value, too many digits, and a position
  split_ifs with word script long
  · refine iff_of_true Outcome.succeeds_ok fun h => ?_
    rcases (Bool.or_eq_true _ _).mp word with empty | other
    · exact h.nonempty (List.isEmpty_iff.mp empty)
    · simp [List.all_eq_true.mpr h.digits] at other
  all_goals
    simp only [Bool.or_eq_true, not_or, List.isEmpty_iff, Bool.not_eq_true',
      Bool.not_eq_false] at word
    have digits := List.all_eq_true.mp word.2
  · refine iff_of_false Outcome.not_succeeds_error (not_not_intro ⟨word.1, digits, .inl ?_⟩)
    simpa using script
  · exact iff_of_false Outcome.not_succeeds_error (not_not_intro ⟨word.1, digits, .inr long⟩)
  · refine iff_of_true Outcome.succeeds_ok fun h => ?_
    obtain ⟨c, hc, signed⟩ | exceeds := h.flaw
    · simp only [Bool.not_eq_true', Bool.not_eq_false, List.all_eq_true] at script
      exact absurd (script c hc) (by simp [signed])
    · exact long exceeds

namespace Value

/-- Following the steps fails: one of them, into a list, is misread. -/
inductive Stumbles : Value → List String → Prop
  | here {v : Value} {xs : List Value} {name : String} {rest : List String}
      (items : v.items? = some xs)
    (misread : MisreadIndex name) : Stumbles v (name :: rest)
  | beyond {v w : Value} {name : String} {rest : List String} (step : v.step name = .ok w)
    (stumbles : Stumbles w rest) : Stumbles v (name :: rest)

theorem fields?_of_items? {v : Value} {xs : List Value} (h : v.items? = some xs) :
    v.fields? = none := by
  cases v <;> simp_all [items?, fields?]

/-- A step fails only into a list, and only if it is misread. -/
theorem succeeds_step_iff (v : Value) (name : String) :
    Succeeds (v.step name) ↔ ∀ xs, v.items? = some xs → ¬ MisreadIndex name := by
  unfold step
  cases fields : v.fields? with
  | some fs =>
    refine iff_of_true Outcome.succeeds_ok fun xs items => ?_
    rw [fields?_of_items? items] at fields
    cases fields
  | none =>
    cases items : v.items? with
    | none => exact iff_of_true Outcome.succeeds_ok nofun
    | some xs =>
      simp only [Option.some.injEq, forall_eq', ← succeeds_indexOfStep?_iff]
      exact Outcome.succeeds_bind_iff_left fun i => by cases i <;> exact Outcome.succeeds_ok

/-- Following a path succeeds exactly if it does not stumble. -/
theorem succeeds_walkSteps_iff (v : Value) (steps : List String) :
    Succeeds (v.walkSteps steps) ↔ ¬ v.Stumbles steps := by
  induction steps generalizing v with
  | nil => exact iff_of_true Outcome.succeeds_ok nofun
  | cons name rest ih =>
    rw [walkSteps, Outcome.succeeds_bind]
    constructor
    · rintro ⟨w, step, walked⟩ (⟨items, misread⟩ | ⟨step', stumbles⟩)
      · exact (succeeds_step_iff v name).mp ⟨w, step⟩ _ items misread
      · obtain rfl := Except.ok.inj (step.symm.trans step')
        exact (ih w).mp walked stumbles
    · intro h
      obtain ⟨w, step⟩ := (succeeds_step_iff v name).mpr fun xs items misread =>
        h (.here items misread)
      exact ⟨w, step, (ih w).mpr fun stumbles => h (.beyond step stumbles)⟩

/-- No path in an object stumbles at its first step. -/
theorem stumbles_obj_iff {fs : Fields} {name : String} {rest : List String} :
    (obj fs).Stumbles (name :: rest) ↔ (Fields.get fs name).Stumbles rest := by
  constructor
  · rintro (⟨items, -⟩ | ⟨step, stumbles⟩)
    · cases items
    · rwa [← Except.ok.inj step] at stumbles
  · exact .beyond rfl

/-! ### Data of the kinds that JSON has -/

theorem IsJson.step {v w : Value} (json : v.IsJson) {name : String} (h : v.step name = .ok w) :
    w.IsJson := by
  cases json with
  | obj distinct values =>
    rw [← Except.ok.inj h]
    exact (IsJson.obj distinct values).get name
  | @list xs items =>
    simp only [Value.step, fields?, items?] at h
    obtain ⟨i, -, found⟩ := Outcome.bind_eq_ok.mp h
    cases i with
    | none => exact Except.ok.inj found ▸ .null
    | some i =>
      rw [← Except.ok.inj found, List.getD_eq_getElem?_getD]
      cases there : xs[i]? with
      | none => exact .null
      | some x => exact items x (List.mem_of_getElem? there)
  | _ => exact Except.ok.inj h ▸ .null

/-- What a path leads to in data of JSON is such data. -/
theorem IsJson.walkSteps {v w : Value} (json : v.IsJson) {steps : List String}
    (h : v.walkSteps steps = .ok w) : w.IsJson := by
  induction steps generalizing v with
  | nil => exact Except.ok.inj h ▸ json
  | cons name rest ih =>
    obtain ⟨x, step, walked⟩ := Outcome.bind_eq_ok.mp h
    exact ih (json.step step) walked

theorem forall_mem_itemLeaves {P : String × Value → Prop} {xs : List Value}
    (h : ∀ x ∈ xs, ∀ path, ∀ e ∈ x.leavesBelow path, P e) (path : String) (i : ℕ) :
    ∀ e ∈ itemLeaves path i xs, P e := by
  induction xs generalizing i with
  | nil => exact fun e he => nomatch he
  | cons x rest ih =>
    rw [List.forall_mem_cons] at h
    rw [itemLeaves, List.forall_mem_append]
    exact ⟨h.1 _, ih h.2 _⟩

theorem forall_mem_fieldLeaves {P : String × Value → Prop} {fs : Fields}
    (h : ∀ f ∈ fs, ∀ path, ∀ e ∈ f.2.leavesBelow path, P e) (path : String) :
    ∀ e ∈ fieldLeaves path fs, P e := by
  induction fs with
  | nil => exact fun e he => nomatch he
  | cons f rest ih =>
    rw [List.forall_mem_cons] at h
    rw [fieldLeaves, List.forall_mem_append]
    exact ⟨h.1 _, ih h.2⟩

theorem IsJson.leavesBelow {v : Value} (json : v.IsJson) (path : String) :
    ∀ e ∈ v.leavesBelow path, e.2.IsJson := by
  induction json generalizing path with
  | list items ih =>
    rw [Value.leavesBelow]
    exact forall_mem_itemLeaves ih path 0
  | obj distinct values ih =>
    rw [Value.leavesBelow]
    exact forall_mem_fieldLeaves ih path
  | null => exact List.forall_mem_singleton.mpr .null
  | bool b => exact List.forall_mem_singleton.mpr (.bool b)
  | int short => exact List.forall_mem_singleton.mpr (.int short)
  | float one => exact List.forall_mem_singleton.mpr (.float one)
  | str s => exact List.forall_mem_singleton.mpr (.str s)

end Value

theorem isJson_flatten {v : Value} (json : v.IsJson) : ∀ e ∈ flatten v, e.2.IsJson := by
  have leaves : ∀ e ∈ v.leaves, e.2.IsJson := by
    unfold Value.leaves
    split
    · exact json.leavesBelow ""
    · exact fun e he => nomatch he
  cases Value.isJson_ofEntries leaves with
  | obj distinct values => exact values

end QuotationPress
