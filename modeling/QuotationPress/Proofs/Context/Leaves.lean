import QuotationPress.Proofs.Context.Paths
import QuotationPress.Proofs.Context.Steps

/-!
# Leaves and the paths that lead to them

`Value.places` lists the leaves of a value in document order, each with the steps that lead to it.
Flattening writes these steps as dotted paths, no two of which are the same, and a walk along such a
path ends at the leaf; the other way round every leaf that a walk ends at has been written down.
`flatten_walk` says both.
-/

namespace QuotationPress

open Outcome (Succeeds)

/-- Among distinct keys an entry is found under its own. -/
theorem Fields.get?_of_mem {fs : Fields} (distinct : (fs.map Prod.fst).Nodup) {e : String × Value}
    (he : e ∈ fs) : fs.get? e.1 = some e.2 := by
  induction fs with
  | nil => cases he
  | cons f rest ih =>
    obtain ⟨key, w⟩ := f
    rw [List.map_cons, List.nodup_cons] at distinct
    rw [get?_cons]
    rcases List.mem_cons.mp he with rfl | later
    · exact if_pos rfl
    · have other : e.1 ≠ key := fun same => distinct.1 (List.mem_map.mpr ⟨e, later, same⟩)
      rw [if_neg other]
      exact ih distinct.2 later

namespace Value

/-! ### Leaves and their places -/

/-- What a container holds, each value under the step that leads to it. -/
def parts : Value → Fields
  | list xs => xs.zipIdx.map fun e => (stepOfIndex e.2, e.1)
  | tuple xs => xs.zipIdx.map fun e => (stepOfIndex e.2, e.1)
  | obj fs => fs
  | keyed es => es.map fun e => (e.1.label, e.2)
  | _ => []

/-- The same place as seen from one step further up. -/
def under (step : String) (place : List String × Value) : List String × Value :=
  (step :: place.1, place.2)

mutual

/-- The leaves of a value in document order, each with the steps that lead to it. A value that is no
container is a leaf itself. -/
def places : Value → List (List String × Value)
  | list xs => itemPlaces 0 xs
  | tuple xs => itemPlaces 0 xs
  | obj fs => fieldPlaces fs
  | keyed es => entryPlaces es
  | v => [([], v)]

def itemPlaces : Nat → List Value → List (List String × Value)
  | _, [] => []
  | i, v :: rest => v.places.map (under (stepOfIndex i)) ++ itemPlaces (i + 1) rest

def fieldPlaces : List (String × Value) → List (List String × Value)
  | [] => []
  | (key, v) :: rest => v.places.map (under key) ++ fieldPlaces rest

def entryPlaces : List (Key × Value) → List (List String × Value)
  | [] => []
  | (key, v) :: rest => v.places.map (under key.label) ++ entryPlaces rest

end

/-- Every object in the value has its entries under distinct texts that can be steps of a path. -/
inductive Dotless : Value → Prop
  | list {xs : List Value} (items : ∀ x ∈ xs, Dotless x) : Dotless (list xs)
  | tuple {xs : List Value} (items : ∀ x ∈ xs, Dotless x) : Dotless (tuple xs)
  | obj {fs : Fields} (distinct : (fs.map Prod.fst).Nodup)
      (steps : ∀ key ∈ fs.map Prod.fst, IsStep key)
    (values : ∀ e ∈ fs, Dotless e.2) : Dotless (obj fs)
  | leaf {v : Value} (single : v.isContainer = false) : Dotless v

theorem places_of_leaf {v : Value} (h : v.isContainer = false) : v.places = [([], v)] := by
  cases v <;> first | rfl | cases h

theorem itemPlaces_eq (i : ℕ) (xs : List Value) :
    itemPlaces i xs = (xs.zipIdx i).flatMap fun e => e.1.places.map (under (stepOfIndex e.2)) := by
  induction xs generalizing i with
  | nil => rfl
  | cons x rest ih => rw [itemPlaces, ih, List.zipIdx_cons, List.flatMap_cons]

theorem fieldPlaces_eq (fs : Fields) :
    fieldPlaces fs = fs.flatMap fun e => e.2.places.map (under e.1) := by
  induction fs with
  | nil => rfl
  | cons e rest ih => rw [fieldPlaces, ih, List.flatMap_cons]

theorem entryPlaces_eq (es : List (Key × Value)) :
    entryPlaces es = es.flatMap fun e => e.2.places.map (under e.1.label) := by
  induction es with
  | nil => rfl
  | cons e rest ih => rw [entryPlaces, ih, List.flatMap_cons]

/-- The leaves in a container are those in its parts, in order. -/
theorem places_of_container {v : Value} (h : v.isContainer = true) :
    v.places = v.parts.flatMap fun e => e.2.places.map (under e.1) := by
  cases v with
  | list xs => rw [places, itemPlaces_eq, parts, List.flatMap_map]
  | tuple xs => rw [places, itemPlaces_eq, parts, List.flatMap_map]
  | obj fs => rw [places, fieldPlaces_eq, parts]
  | keyed es => rw [places, entryPlaces_eq, parts, List.flatMap_map]
  | _ => cases h

theorem itemLeaves_eq (path : String) (i : ℕ) (xs : List Value) : itemLeaves path i xs =
    (xs.zipIdx i).flatMap fun e => e.1.leavesBelow (pathBelow path (stepOfIndex e.2)) := by
  induction xs generalizing i with
  | nil => rfl
  | cons x rest ih => rw [itemLeaves, ih, List.zipIdx_cons, List.flatMap_cons]

theorem fieldLeaves_eq (path : String) (fs : Fields) :
    fieldLeaves path fs = fs.flatMap fun e => e.2.leavesBelow (pathBelow path e.1) := by
  induction fs with
  | nil => rfl
  | cons e rest ih => rw [fieldLeaves, ih, List.flatMap_cons]

theorem entryLeaves_eq (path : String) (es : List (Key × Value)) :
    entryLeaves path es = es.flatMap fun e => e.2.leavesBelow (pathBelow path e.1.label) := by
  induction es with
  | nil => rfl
  | cons e rest ih => rw [entryLeaves, ih, List.flatMap_cons]

theorem leavesBelow_of_leaf {v : Value} (h : v.isContainer = false) (path : String) :
    v.leavesBelow path = [(path, v)] := by
  cases v <;> first | rfl | cases h

/-- Flattening goes through a container part by part. -/
theorem leavesBelow_of_container {v : Value} (h : v.isContainer = true) (path : String) :
    v.leavesBelow path = v.parts.flatMap fun e => e.2.leavesBelow (pathBelow path e.1) := by
  cases v with
  | list xs => rw [leavesBelow, itemLeaves_eq, parts, List.flatMap_map]
  | tuple xs => rw [leavesBelow, itemLeaves_eq, parts, List.flatMap_map]
  | obj fs => rw [leavesBelow, fieldLeaves_eq, parts]
  | keyed es => rw [leavesBelow, entryLeaves_eq, parts, List.flatMap_map]
  | _ => cases h

/-- A leaf in a container is a leaf in one of its parts, one step further down. -/
theorem mem_places_iff {v : Value} (h : v.isContainer = true) {p : List String × Value} :
    p ∈ v.places ↔ ∃ e ∈ v.parts, ∃ q ∈ e.2.places, under e.1 q = p := by
  simp only [places_of_container h, List.mem_flatMap, List.mem_map]

theorem isContainer_of_items {v : Value} {xs : List Value} (h : v.items? = some xs) :
    v.isContainer = true := by
  cases v <;> first | rfl | cases h

theorem parts_of_items {v : Value} {xs : List Value} (h : v.items? = some xs) :
    v.parts = xs.zipIdx.map fun e => (stepOfIndex e.2, e.1) := by
  cases v <;> cases h <;> rfl

/-- The items of a list stand at their positions. -/
theorem mem_parts_of_items {v : Value} {xs : List Value} (h : v.items? = some xs)
    {e : String × Value} :
    e ∈ v.parts ↔ ∃ i, xs[i]? = some e.2 ∧ stepOfIndex i = e.1 := by
  rw [parts_of_items h, List.mem_map]
  constructor
  · rintro ⟨⟨x, i⟩, found, rfl⟩
    exact ⟨i, List.mem_zipIdx_iff_getElem?.mp found, rfl⟩
  · rintro ⟨i, found, step⟩
    exact ⟨(e.2, i), List.mem_zipIdx_iff_getElem?.mpr found, by rw [step]⟩

/-- No two positions have the same step. -/
theorem nodup_parts_of_items {v : Value} {xs : List Value} (h : v.items? = some xs) :
    (v.parts.map Prod.fst).Nodup := by
  have steps : v.parts.map Prod.fst = (List.range' 0 xs.length).map stepOfIndex := by
    rw [parts_of_items h, ← List.zipIdx_map_snd, List.map_map, List.map_map]
    rfl
  rw [steps]
  exact (List.nodup_range' 1).map stepOfIndex_injective

theorem mem_of_mem_parts_of_items {v : Value} {xs : List Value} (h : v.items? = some xs)
    {e : String × Value} (he : e ∈ v.parts) : e.2 ∈ xs := by
  obtain ⟨i, found, -⟩ := (mem_parts_of_items h).mp he
  exact List.mem_of_getElem? found

theorem parts_of_leaf {v : Value} (h : v.isContainer = false) : v.parts = [] := by
  cases v <;> first | rfl | cases h

namespace Dotless

variable {v : Value} {e : String × Value}

/-- No two parts stand under the same step. -/
theorem nodup_parts (d : v.Dotless) : (v.parts.map Prod.fst).Nodup := by
  cases d with
  | list items => exact nodup_parts_of_items rfl
  | tuple items => exact nodup_parts_of_items rfl
  | obj distinct steps values => exact distinct
  | leaf single => simp [parts_of_leaf single]

/-- Parts stand under texts that can be steps. -/
theorem isStep (d : v.Dotless) (he : e ∈ v.parts) : IsStep e.1 := by
  have position {xs : List Value} (h : v.items? = some xs) : IsStep e.1 := by
    obtain ⟨i, -, step⟩ := (mem_parts_of_items h).mp he
    exact step ▸ isStep_stepOfIndex i
  cases d with
  | list items => exact position rfl
  | tuple items => exact position rfl
  | obj distinct steps values => exact steps e.1 (List.mem_map_of_mem he)
  | leaf single => simp [parts_of_leaf single] at he

/-- What a part holds has its texts distinct and without dots as well. -/
theorem part (d : v.Dotless) (he : e ∈ v.parts) : e.2.Dotless := by
  cases d with
  | list items => exact items _ (mem_of_mem_parts_of_items rfl he)
  | tuple items => exact items _ (mem_of_mem_parts_of_items rfl he)
  | obj distinct steps values => exact values e he
  | leaf single => simp [parts_of_leaf single] at he

/-- Induction that treats all kinds of containers alike. -/
@[elab_as_elim]
theorem byParts {motive : (v : Value) → v.Dotless → Prop}
    (leaf : ∀ v (single : v.isContainer = false), motive v (.leaf single))
    (container : ∀ v (d : v.Dotless), v.isContainer = true →
    (∀ e (he : e ∈ v.parts), motive e.2 (d.part he)) →
      motive v d)
    (d : v.Dotless) : motive v d := by
  induction d with
  | list items ih => exact container _ _ rfl fun e he => ih e.2 (mem_of_mem_parts_of_items rfl he)
  | tuple items ih => exact container _ _ rfl fun e he => ih e.2 (mem_of_mem_parts_of_items rfl he)
  | obj distinct steps values ih => exact container _ _ rfl fun e he => ih e he
  | leaf single => exact leaf _ single

end Dotless

/-! ### Walking to a leaf -/

/-- The step to a position, in a list of any length. -/
theorem step_of_items {v : Value} {xs : List Value} (h : v.items? = some xs) (i : ℕ) :
    v.step (stepOfIndex i) = if numeralLimit < digitCount i
      then .error (.numeralTooLongToRead (digitCount i)) else .ok (xs.getD i null) := by
  rw [Value.step, fields?_of_items? h, h, indexOfStep?_stepOfIndex]
  dsimp only
  split
  · rfl
  · rfl

/-- A step that is taken at all leads to the part that stands under it. -/
theorem step_of_mem_parts {v w : Value} (d : v.Dotless) {e : String × Value} (he : e ∈ v.parts)
    (h : v.step e.1 = .ok w) : w = e.2 := by
  have position {xs : List Value} (items : v.items? = some xs) : w = e.2 := by
    obtain ⟨i, found, step⟩ := (mem_parts_of_items items).mp he
    rw [← step, step_of_items items] at h
    split at h
    · cases h
    · have there : xs.getD i null = w := Except.ok.inj h
      rw [← there, List.getD_eq_getElem?_getD, found]
      rfl
  cases d with
  | list items => exact position rfl
  | tuple items => exact position rfl
  | @obj fs distinct steps values =>
    have there : Fields.get fs e.1 = w := Except.ok.inj h
    rw [← there, Fields.get, Fields.get?_of_mem distinct he]
    rfl
  | leaf single => simp [parts_of_leaf single] at he

/-- A walk along the steps of a leaf ends there, unless it fails. -/
theorem walkSteps_of_mem_places {v : Value} (d : v.Dotless) :
    ∀ p ∈ v.places, Succeeds (v.walkSteps p.1) → v.walkSteps p.1 = .ok p.2 := by
  induction d using Dotless.byParts with
  | leaf v single =>
    intro p hp _
    rw [places_of_leaf single, List.mem_singleton] at hp
    rw [hp]
    rfl
  | container v d inside ih =>
    intro p hp ends
    obtain ⟨e, he, q, hq, rfl⟩ := (mem_places_iff inside).mp hp
    obtain ⟨w, step, more⟩ := Outcome.succeeds_bind.mp ends
    obtain rfl := step_of_mem_parts d he step
    exact Outcome.bind_eq_ok.mpr ⟨e.2, step, ih e he q hq more⟩

/-- No list in the value has so many items that the numeral of a position is too long to be read. A
list that long fits into no memory. -/
inductive Countable : Value → Prop
  | mk {v : Value} (short : ∀ xs, v.items? = some xs → xs.length ≤ 10 ^ numeralLimit)
    (inside : ∀ e ∈ v.parts, Countable e.2) : Countable v

namespace Countable

theorem ofLeaf {v : Value} (single : v.isContainer = false) : v.Countable := by
  refine .mk ?_ ?_
  · intro xs items
    rw [isContainer_of_items items] at single
    cases single
  · intro e he
    rw [parts_of_leaf single] at he
    cases he

/-- Short lists can be counted. -/
theorem ofItems {v : Value} {xs : List Value} (items : v.items? = some xs) (short : xs.length ≤ 10)
    (inside : ∀ x ∈ xs, x.Countable) : v.Countable := by
  refine .mk ?_ ?_
  · intro ys same
    obtain rfl : xs = ys := Option.some.inj (items.symm.trans same)
    have limit : 10 ≤ 10 ^ numeralLimit := Nat.le_self_pow (by decide) 10
    exact short.trans limit
  · intro e he
    exact inside e.2 (mem_of_mem_parts_of_items items he)

theorem ofFields {fs : Fields} (inside : ∀ e ∈ fs, e.2.Countable) : (obj fs).Countable :=
  .mk nofun inside

end Countable

/-- In a value that can be counted, the walk to a leaf does not fail. -/
theorem succeeds_walkSteps_of_mem_places {v : Value} (d : v.Dotless) (c : v.Countable) :
    ∀ p ∈ v.places, Succeeds (v.walkSteps p.1) := by
  induction d using Dotless.byParts with
  | leaf v single =>
    intro p hp
    rw [places_of_leaf single, List.mem_singleton] at hp
    rw [hp]
    exact Outcome.succeeds_ok
  | container v d inside ih =>
    intro p hp
    obtain ⟨e, he, q, hq, rfl⟩ := (mem_places_iff inside).mp hp
    obtain ⟨short, counted⟩ := c
    -- in a short list the numeral of a position can be read
    have taken : Succeeds (v.step e.1) := by
      rw [succeeds_step_iff]
      intro xs items
      obtain ⟨i, found, step⟩ := (mem_parts_of_items items).mp he
      have bound : i < xs.length := (List.getElem?_eq_some_iff.mp found).1
      have read : digitCount i ≤ numeralLimit :=
        (digitCount_le_iff (by decide)).mpr (lt_of_lt_of_le bound (short xs items))
      rw [← succeeds_indexOfStep?_iff, ← step, indexOfStep?_stepOfIndex, if_neg (not_lt.mpr read)]
      exact Outcome.succeeds_ok
    obtain ⟨w, step⟩ := taken
    obtain rfl := step_of_mem_parts d he step
    exact Outcome.succeeds_bind.mpr ⟨e.2, step, ih e he (counted e he) q hq⟩

/-- Each of the steps that is taken into a list is the numeral of a position. -/
def CanonicalSteps : Value → List String → Prop
  | _, [] => True
  | v, name :: rest => (v.items?.isSome = true → ∃ i, name = stepOfIndex i) ∧
      ∀ w, v.step name = .ok w → w.CanonicalSteps rest

/-- From null every walk ends at null. -/
theorem walkSteps_null (steps : List String) : null.walkSteps steps = .ok null := by
  induction steps with
  | nil => rfl
  | cons name rest ih => exact ih

/-- A step that leads to something leads to a part of the value. -/
theorem mem_parts_of_step {v w : Value} (d : v.Dotless) {name : String} (h : v.step name = .ok w)
    (given : w.isNull = false) (canonical : v.items?.isSome = true → ∃ i, name = stepOfIndex i) :
    (name, w) ∈ v.parts := by
  have nothing : null.isNull = true := rfl
  have position {xs : List Value} (items : v.items? = some xs) : (name, w) ∈ v.parts := by
    obtain ⟨i, rfl⟩ := canonical (by rw [items]; rfl)
    rw [step_of_items items] at h
    split at h
    · cases h
    · have there : xs.getD i null = w := Except.ok.inj h
      rw [List.getD_eq_getElem?_getD] at there
      cases found : xs[i]? with
      | none =>
        rw [found] at there
        rw [← there] at given
        cases given
      | some x =>
        rw [found] at there
        obtain rfl : x = w := there
        exact (mem_parts_of_items items).mpr ⟨i, found, rfl⟩
  -- a list has the item at the position; an object, what stands under the name
  cases d with
  | list items => exact position rfl
  | tuple items => exact position rfl
  | @obj fs distinct steps values =>
    have there : Fields.get fs name = w := Except.ok.inj h
    cases found : fs.get? name with
    | none =>
      rw [Fields.get, found] at there
      rw [← there] at given
      cases given
    | some x =>
      rw [Fields.get, found] at there
      obtain rfl : x = w := there
      exact Fields.mem_of_get? found
  | leaf single =>
    have there : v.step name = .ok null := by cases v <;> first | rfl | cases single
    obtain rfl := Except.ok.inj (there.symm.trans h)
    cases given

/-- Every leaf that a walk ends at is listed with the steps of the walk. -/
theorem mem_places_of_walkSteps {v w : Value} (d : v.Dotless) {steps : List String}
    (canonical : v.CanonicalSteps steps) (h : v.walkSteps steps = .ok w) (given : w.isNull = false)
    (single : w.isContainer = false) : (steps, w) ∈ v.places := by
  induction steps generalizing v with
  | nil =>
    obtain rfl : v = w := Except.ok.inj h
    rw [places_of_leaf single]
    exact List.mem_singleton_self _
  | cons name rest ih =>
    obtain ⟨x, step, walked⟩ := Outcome.bind_eq_ok.mp h
    -- a walk to something does not come through null
    have found : x.isNull = false := by
      by_contra null
      obtain rfl := eq_null_of_isNull (by simpa using null)
      rw [walkSteps_null] at walked
      rw [← Except.ok.inj walked] at given
      cases given
    have part := mem_parts_of_step d step found canonical.1
    have inside : v.isContainer = true := by
      by_contra leaf
      rw [parts_of_leaf (by simpa using leaf)] at part
      cases part
    exact (mem_places_iff inside).mpr
      ⟨(name, x), part, (rest, w), ih (d.part part) (canonical.2 x step) walked, rfl⟩

/-! ### Flattening -/

/-- Leaves are no containers. -/
theorem isContainer_of_mem_places {v : Value} (d : v.Dotless) :
    ∀ p ∈ v.places, p.2.isContainer = false := by
  induction d using Dotless.byParts with
  | leaf v single =>
    intro p hp
    rw [places_of_leaf single, List.mem_singleton] at hp
    rwa [hp]
  | container v d inside ih =>
    intro p hp
    obtain ⟨e, he, q, hq, rfl⟩ := (mem_places_iff inside).mp hp
    exact ih e he q hq

/-- The way to a leaf can be written as a path. -/
theorem isStep_of_mem_places {v : Value} (d : v.Dotless) : ∀ p ∈ v.places, ∀ s ∈ p.1, IsStep s := by
  induction d using Dotless.byParts with
  | leaf v single =>
    intro p hp s hs
    rw [places_of_leaf single, List.mem_singleton] at hp
    rw [hp] at hs
    cases hs
  | container v d inside ih =>
    intro p hp
    obtain ⟨e, he, q, hq, rfl⟩ := (mem_places_iff inside).mp hp
    exact List.forall_mem_cons.mpr ⟨d.isStep he, ih e he q hq⟩

/-- No two leaves are at one place: where the ways part they go on by different steps. -/
theorem nodup_places {v : Value} (d : v.Dotless) : (v.places.map Prod.fst).Nodup := by
  induction d using Dotless.byParts with
  | leaf v single => simp [places_of_leaf single]
  | container v d inside ih =>
    rw [places_of_container inside, List.map_flatMap, List.nodup_flatMap]
    constructor
    · intro e he
      have below : (e.2.places.map (under e.1)).map Prod.fst =
          (e.2.places.map Prod.fst).map (e.1 :: ·) := by
        rw [List.map_map, List.map_map]
        rfl
      rw [below]
      exact (ih e he).map (List.cons_injective)
    · -- in two different parts the first steps already differ
      refine (List.pairwise_map.mp d.nodup_parts).imp fun {e f} apart => ?_
      intro steps he hf
      obtain ⟨p, hp, rfl⟩ := List.mem_map.mp he
      obtain ⟨p', hp', rfl⟩ := List.mem_map.mp hp
      obtain ⟨q, hq, same⟩ := List.mem_map.mp hf
      obtain ⟨q', hq', rfl⟩ := List.mem_map.mp hq
      exact apart (List.cons.inj same).1.symm

/-- Flattening writes the way to each leaf as a path. -/
theorem leavesBelow_dotted {v : Value} (d : v.Dotless) {steps : List String}
    (h : ∀ s ∈ steps, IsStep s) :
    v.leavesBelow (dotted steps) = v.places.map fun p => (dotted (steps ++ p.1), p.2) := by
  induction d using Dotless.byParts generalizing steps with
  | leaf v single => simp [leavesBelow_of_leaf single, places_of_leaf single]
  | container v d inside ih =>
    rw [leavesBelow_of_container inside, places_of_container inside, List.map_flatMap]
    refine List.flatMap_congr fun e he => ?_
    have longer : ∀ s ∈ steps ++ [e.1], IsStep s := by
      intro s hs
      rcases List.mem_append.mp hs with hs | hs
      · exact h s hs
      · exact List.mem_singleton.mp hs ▸ d.isStep he
    rw [pathBelow_dotted h, ih e he longer, List.map_map]
    refine List.map_congr_left fun p _ => ?_
    simp [under]

theorem ne_nil_of_mem_places {v : Value} (inside : v.isContainer = true) {p : List String × Value}
    (hp : p ∈ v.places) : p.1 ≠ [] := by
  obtain ⟨e, -, q, -, rfl⟩ := (mem_places_iff inside).mp hp
  exact List.cons_ne_nil _ _

/-- The leaves inside a value; one that is no container has none. -/
def innerPlaces (v : Value) : List (List String × Value) := if v.isContainer then v.places else []

theorem mem_innerPlaces_iff {v : Value} {p : List String × Value} :
    p ∈ v.innerPlaces ↔ v.isContainer = true ∧ p ∈ v.places := by
  unfold innerPlaces
  split
  · next inside => simp [inside]
  · next single => simp [single]

/-- The steps to a leaf are read off its path. -/
theorem splitAt_of_mem_innerPlaces {v : Value} (d : v.Dotless) {p : List String × Value}
    (hp : p ∈ v.innerPlaces) : Text.splitAt '.' (dotted p.1) = p.1 := by
  obtain ⟨inside, hp⟩ := mem_innerPlaces_iff.mp hp
  exact splitAt_dotted (isStep_of_mem_places d p hp) (ne_nil_of_mem_places inside hp)

/-- Different places have different paths, for the steps can be told from the path. -/
theorem nodup_dotted {v : Value} (d : v.Dotless) :
    ((v.innerPlaces.map fun p => (dotted p.1, p.2)).map Prod.fst).Nodup := by
  have paths : (v.innerPlaces.map fun p => (dotted p.1, p.2)).map Prod.fst =
      (v.innerPlaces.map Prod.fst).map dotted := by
    rw [List.map_map, List.map_map]
    rfl
  rw [paths]
  have apart : (v.innerPlaces.map Prod.fst).Nodup := by
    unfold innerPlaces
    split
    · exact nodup_places d
    · exact List.nodup_nil
  refine apart.map_on fun steps hs steps' hs' same => ?_
  obtain ⟨p, hp, rfl⟩ := List.mem_map.mp hs
  obtain ⟨q, hq, rfl⟩ := List.mem_map.mp hs'
  rw [← splitAt_of_mem_innerPlaces d hp, same, splitAt_of_mem_innerPlaces d hq]

end Value

/-- Flattening gives every leaf in document order with its dotted path. -/
theorem flatten_eq_innerPlaces {v : Value} (d : v.Dotless) :
    flatten v = v.innerPlaces.map fun p => (dotted p.1, p.2) := by
  have leaves : v.leaves = v.innerPlaces.map fun p => (dotted p.1, p.2) := by
    unfold Value.leaves Value.innerPlaces
    split
    · have root := @Value.leavesBelow_dotted v d [] nofun
      exact root
    · rfl
  rw [flatten, leaves, Fields.ofEntries_of_distinct (Value.nodup_dotted d)]

theorem mem_flatten_iff {v : Value} (d : v.Dotless) {e : String × Value} :
    e ∈ flatten v ↔ ∃ p ∈ v.innerPlaces, (dotted p.1, p.2) = e := by
  rw [flatten_eq_innerPlaces d, List.mem_map]

/-- The walk along a path that flattening gives ends at the leaf, unless it fails. -/
theorem walk_of_mem_flatten {v : Value} (d : v.Dotless) {e : String × Value} (he : e ∈ flatten v)
    (ends : Succeeds (v.walk e.1)) : v.walk e.1 = .ok e.2 := by
  obtain ⟨p, hp, rfl⟩ := (mem_flatten_iff d).mp he
  unfold Value.walk at ends ⊢
  rw [Value.splitAt_of_mem_innerPlaces d hp] at ends ⊢
  exact Value.walkSteps_of_mem_places d p (Value.mem_innerPlaces_iff.mp hp).2 ends

/-- Flattening lists the leaves inside a value in document order, under distinct paths, and a walk
along each of the paths ends at the leaf. A leaf that a walk ends at along any path, with plain
numerals for the positions in lists, is listed under this path. -/
theorem flatten_walk {v : Value} (d : v.Dotless) :
    flatten v = v.innerPlaces.map (fun p => (dotted p.1, p.2)) ∧
    ((flatten v).map Prod.fst).Nodup ∧
    (v.Countable → ∀ e ∈ flatten v, e.2.isContainer = false ∧ v.walk e.1 = .ok e.2) ∧
    ∀ path w, v.walk path = .ok w → w.isNull = false → w.isContainer = false →
      v.CanonicalSteps (Text.splitAt '.' path) → (path, w) ∈ flatten v := by
  refine ⟨flatten_eq_innerPlaces d, ?_, fun countable e he => ?_,
    fun path w walked given single canonical => ?_⟩
  · rw [flatten_eq_innerPlaces d]
    exact Value.nodup_dotted d
  · obtain ⟨p, hp, rfl⟩ := (mem_flatten_iff d).mp he
    have listed := (Value.mem_innerPlaces_iff.mp hp).2
    refine ⟨Value.isContainer_of_mem_places d p listed, walk_of_mem_flatten d he ?_⟩
    unfold Value.walk
    rw [Value.splitAt_of_mem_innerPlaces d hp]
    exact Value.succeeds_walkSteps_of_mem_places d countable p listed
  · have listed := Value.mem_places_of_walkSteps d canonical walked given single
    refine (mem_flatten_iff d).mpr ⟨(Text.splitAt '.' path, w), ?_, by rw [dotted_splitAt]⟩
    refine Value.mem_innerPlaces_iff.mpr ⟨?_, listed⟩
    -- a path has at least one step, and so it leads nowhere from a value that is no container
    by_contra leaf
    rw [Value.places_of_leaf (by simpa using leaf), List.mem_singleton] at listed
    have none : Text.splitAt '.' path = [] := congrArg Prod.fst listed
    exact Text.splitChars_ne_nil '.' path.toList (List.map_eq_nil_iff.mp none)

/-- Data with an empty object, an empty list and a key that looks like a position. -/
def nestedOffer : Value :=
  .obj [("client", .obj [("name", .str "Meera"), ("notes", .obj []), ("7", .null)]),
    ("items", .list [.int 3, .list [], .tuple [.str "a"]])]

theorem dotless_nestedOffer : nestedOffer.Dotless := by
  have items : (Value.list [.int 3, .list [], .tuple [.str "a"]]).Dotless := by
    refine .list ?_
    simp only [List.forall_mem_cons]
    exact ⟨.leaf rfl, .list nofun, .tuple (List.forall_mem_singleton.mpr (.leaf rfl)), nofun⟩
  have client : (Value.obj [("name", .str "Meera"), ("notes", .obj []), ("7", .null)]).Dotless := by
    refine .obj (by decide) (by decide) ?_
    simp only [List.forall_mem_cons]
    exact ⟨.leaf rfl, .obj (by decide) nofun nofun, .leaf rfl, nofun⟩
  refine .obj (by decide) (by decide) ?_
  simp only [List.forall_mem_cons]
  exact ⟨client, items, nofun⟩

theorem countable_nestedOffer : nestedOffer.Countable := by
  have items : (Value.list [.int 3, .list [], .tuple [.str "a"]]).Countable := by
    refine .ofItems rfl (by decide) ?_
    simp only [List.forall_mem_cons]
    have nested : (Value.tuple [.str "a"]).Countable :=
      .ofItems rfl (by decide) (List.forall_mem_singleton.mpr (.ofLeaf rfl))
    exact ⟨.ofLeaf rfl, .ofItems rfl (by decide) nofun, nested, nofun⟩
  have client :
      (Value.obj [("name", .str "Meera"), ("notes", .obj []), ("7", .null)]).Countable := by
    refine .ofFields ?_
    simp only [List.forall_mem_cons]
    exact ⟨.ofLeaf rfl, .ofFields nofun, .ofLeaf rfl, nofun⟩
  refine .ofFields ?_
  simp only [List.forall_mem_cons]
  exact ⟨client, items, nofun⟩

theorem nestedOffer_walk : nestedOffer.Dotless ∧ nestedOffer.Countable ∧
    flatten nestedOffer =
      [("client.name", .str "Meera"), ("client.7", .null), ("items.0", .int 3),
        ("items.2.0", .str "a")] ∧
    nestedOffer.walk "client.7" = .ok .null ∧ nestedOffer.walk "items.2.0" = .ok (.str "a") ∧
    ("items.2.0", .str "a") ∈ flatten nestedOffer := by
  obtain ⟨listed, distinct, walked, found⟩ := flatten_walk dotless_nestedOffer
  have entries : flatten nestedOffer =
      [("client.name", .str "Meera"), ("client.7", .null), ("items.0", .int 3),
        ("items.2.0", .str "a")] := by
    rw [listed]
    rfl
  have ends : ∀ e ∈ flatten nestedOffer, nestedOffer.walk e.1 = .ok e.2 := by
    intro e he
    exact (walked countable_nestedOffer e he).2
  simp only [entries, List.forall_mem_cons] at ends
  -- both steps into a list are numerals without leading zeros
  have canonical : nestedOffer.CanonicalSteps (Text.splitAt '.' "items.2.0") := by
    have steps : Text.splitAt '.' "items.2.0" = ["items", "2", "0"] := by rfl
    rw [steps]
    refine ⟨nofun, ?_⟩
    rintro w ⟨⟩
    refine ⟨fun _ => ⟨2, by decide⟩, ?_⟩
    rintro w ⟨⟩
    refine ⟨fun _ => ⟨0, by decide⟩, ?_⟩
    intro w _
    trivial
  exact ⟨dotless_nestedOffer, countable_nestedOffer, entries, ends.2.1, ends.2.2.2.1,
    found "items.2.0" (.str "a") ends.2.2.2.1 rfl rfl canonical⟩

end QuotationPress
