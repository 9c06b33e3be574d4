import Mathlib.Data.List.Basic
import QuotationPress.Proofs.Json.Plain
import QuotationPress.Proofs.Template.Steps

/-!
# Elements put in another order

`Builder.mention` is the place at which an element is asked for first, and
`Builder.reorder_arranged` says that the elements come out in the order of their places, those that
nobody asks for behind the others as they stood. Of several elements with one id that is asked for
only the last is left: no element is lost exactly if no such id is shared.
-/

namespace QuotationPress.Builder

/-! ### Ids in the order of their first mention -/

theorem mem_distinct {ids : List String} {id : String} : id ∈ distinct ids ↔ id ∈ ids := by
  induction ids with
  | nil => rfl
  | cons s rest ih =>
    by_cases same : id = s <;> simp [distinct, same, ih]

/-- Each id stands once, and those that are mentioned earlier stand in front. -/
theorem pairwise_distinct (ids : List String) :
    (distinct ids).Pairwise fun a b => ids.idxOf a < ids.idxOf b := by
  induction ids with
  | nil => exact .nil
  | cons s rest ih =>
    have other {a : String} (ha : a ∈ (distinct rest).filter (· ≠ s)) :
        (s :: rest).idxOf a = rest.idxOf a + 1 :=
      List.idxOf_cons_ne rest (Ne.symm (of_decide_eq_true (List.mem_filter.mp ha).2))
    refine List.pairwise_cons.mpr ⟨fun a ha => ?_, ?_⟩
    · rw [other ha, List.idxOf_cons_self]
      exact Nat.succ_pos _
    · refine (ih.sublist List.filter_sublist).imp_of_mem fun ha hb earlier => ?_
      rw [other ha, other hb]
      exact Nat.succ_lt_succ earlier

theorem nodup_distinct (ids : List String) : (distinct ids).Nodup :=
  (pairwise_distinct ids).imp fun earlier => ne_of_apply_ne ids.idxOf earlier.ne

/-! ### The elements that are asked for -/

section Front

variable {es : List TemplateElement} {e : TemplateElement} {id : String} {ids : List String}

theorem lastOfId?_eq (es : List TemplateElement) (id : String) :
    lastOfId? es id = (es.filter (·.id = id)).getLast? := by
  rw [lastOfId?, ← List.head?_filter, List.filter_reverse, List.head?_reverse]

theorem id_of_lastOfId? (h : lastOfId? es id = some e) : e.id = id := by
  simpa using List.find?_some h

theorem lastOfId?_isSome (he : e ∈ es) : (lastOfId? es e.id).isSome := by
  rw [lastOfId?, List.find?_isSome]
  exact ⟨e, List.mem_reverse.mpr he, decide_eq_true rfl⟩

/-- The elements in front are those whose ids are asked for, as far as there are any. -/
theorem any_front_iff (he : e ∈ es) :
    (((distinct ids).filterMap (lastOfId? es)).any fun f => f.id = e.id) = true ↔ e.id ∈ ids := by
  simp only [List.any_eq_true, decide_eq_true_eq, List.mem_filterMap, mem_distinct]
  constructor
  · rintro ⟨f, ⟨id, asked, found⟩, same⟩
    rwa [← same, id_of_lastOfId? found]
  · intro asked
    obtain ⟨f, found⟩ := Option.isSome_iff_exists.mp (lastOfId?_isSome he)
    exact ⟨f, ⟨e.id, asked, found⟩, id_of_lastOfId? found⟩

theorem filterMap_lastOfId?_cons (es : List TemplateElement) (id : String) (ids : List String) :
    (id :: ids).filterMap (lastOfId? es) = (lastOfId? es id).toList ++
      ids.filterMap (lastOfId? es) := by
  rw [List.filterMap_cons]
  cases lastOfId? es id <;> rfl

/-- Among distinct ids, one that is asked for brings the last of its elements. -/
theorem filter_front (nodup : ids.Nodup) (id : String) :
    ((ids.filterMap (lastOfId? es)).filter (·.id = id)) =
      if id ∈ ids then (lastOfId? es id).toList else [] := by
  induction ids with
  | nil => rfl
  | cons s rest ih =>
    obtain ⟨fresh, nodup⟩ := List.nodup_cons.mp nodup
    rw [filterMap_lastOfId?_cons, List.filter_append, ih nodup]
    by_cases same : id = s
    · subst same
      rw [if_neg fresh, if_pos List.mem_cons_self, List.append_nil, List.filter_eq_self]
      exact fun f hf => decide_eq_true (id_of_lastOfId? (Option.mem_toList.mp hf))
    · have none : (lastOfId? es s).toList.filter (·.id = id) = [] := by
        refine List.filter_eq_nil_iff.mpr fun f hf found => same ?_
        rw [← of_decide_eq_true found, id_of_lastOfId? (Option.mem_toList.mp hf)]
      rw [none, List.nil_append]
      simp only [List.mem_cons, same, false_or]

/-- An id that is not shared brings all that bear it. -/
theorem toList_lastOfId? {id : String} (single : (es.filter (·.id = id)).length ≤ 1) :
    (lastOfId? es id).toList = es.filter (·.id = id) := by
  rw [lastOfId?_eq]
  obtain none | one := Nat.le_one_iff_eq_zero_or_eq_one.mp single
  · rw [List.length_eq_zero_iff.mp none]
    rfl
  · obtain ⟨e, alone⟩ := List.length_eq_one_iff.mp one
    rw [alone]
    rfl

/-- Ids that are not shared bring all elements that bear one of them. -/
theorem perm_front (es : List TemplateElement) (nodup : ids.Nodup)
    (single : ∀ id ∈ ids, (es.filter (·.id = id)).length ≤ 1) :
    (ids.filterMap (lastOfId? es)).Perm (es.filter (·.id ∈ ids)) := by
  induction ids with
  | nil => simp
  | cons s rest ih =>
    obtain ⟨fresh, nodup⟩ := List.nodup_cons.mp nodup
    rw [List.forall_mem_cons] at single
    -- the id in front brings its one element, the others are left to the rest
    have split : (s :: rest).filterMap (lastOfId? es) =
        es.filter (·.id = s) ++ rest.filterMap (lastOfId? es) := by
      rw [filterMap_lastOfId?_cons, toList_lastOfId? single.1]
    have front : (es.filter (·.id ∈ s :: rest)).filter (·.id = s) = es.filter (·.id = s) := by
      rw [List.filter_filter]
      exact List.filter_congr fun e _ => by by_cases same : e.id = s <;> simp [same]
    have behind : ((es.filter (·.id ∈ s :: rest)).filter fun e => !decide (e.id = s)) =
        es.filter (·.id ∈ rest) := by
      rw [List.filter_filter]
      refine List.filter_congr fun e _ => ?_
      by_cases same : e.id = s <;> simp [same, fresh]
    rw [split]
    refine ((ih nodup single.2).append_left _).trans ?_
    have parts := List.filter_append_perm (fun e : TemplateElement => decide (e.id = s))
      (es.filter (·.id ∈ s :: rest))
    rwa [front, behind] at parts

end Front

/-! ### All elements -/

/-- The place at which an element is asked for first; behind all others if it is not asked for. -/
def mention (ids : List String) (e : TemplateElement) : Nat := ids.idxOf e.id

theorem mention_of_not_mem {ids : List String} {e : TemplateElement} (h : e.id ∉ ids) :
    mention ids e = ids.length := List.idxOf_eq_length h

/-- Those that are asked for stand in front of the others, which stay as they stood. -/
theorem elements_reorder (b : Builder) (ids : List String) : (b.reorder ids).template.elements =
    (distinct ids).filterMap (lastOfId? b.template.elements) ++
      b.template.elements.filter (·.id ∉ ids) := by
  have others : (b.template.elements.filter fun e =>
      !((distinct ids).filterMap (lastOfId? b.template.elements)).any fun f => f.id = e.id) =
      b.template.elements.filter (·.id ∉ ids) := by
    refine List.filter_congr fun e he => ?_
    rw [Bool.eq_iff_iff, Bool.not_eq_true', Bool.eq_false_iff, ne_eq, any_front_iff he,
      decide_eq_true_eq]
  rw [← others]
  rfl

/-- The elements come in the order in which their ids are asked for first, and behind them the
others in the order in which they stood. Of the elements with an id that is asked for only the last
is left; so no element is lost and none comes twice exactly if no id that is asked for is shared. -/
theorem reorder_arranged (b : Builder) (ids : List String) :
    ((b.reorder ids).template.elements.Pairwise fun d e => mention ids d ≤ mention ids e) ∧
    (b.reorder ids).template.elements.filter (·.id ∉ ids) =
      b.template.elements.filter (·.id ∉ ids) ∧
    (∀ id ∈ ids, (b.reorder ids).template.elements.filter (·.id = id) =
      ((b.template.elements.filter (·.id = id)).getLast?).toList) ∧
    ((b.reorder ids).template.elements.Perm b.template.elements ↔
      ∀ id ∈ ids, (b.template.elements.filter (·.id = id)).length ≤ 1) := by
  -- in front stands what is asked for, behind it what is not
  have asked : ∀ e ∈ (distinct ids).filterMap (lastOfId? b.template.elements), e.id ∈ ids := by
    intro e he
    obtain ⟨id, listed, found⟩ := List.mem_filterMap.mp he
    rw [id_of_lastOfId? found]
    exact mem_distinct.mp listed
  have unasked : ∀ e ∈ b.template.elements.filter (·.id ∉ ids), e.id ∉ ids := fun e he =>
    of_decide_eq_true (List.mem_filter.mp he).2
  have kept : ∀ id ∈ ids, (b.reorder ids).template.elements.filter (·.id = id) =
      ((b.template.elements.filter (·.id = id)).getLast?).toList := by
    intro id listed
    have behind : (b.template.elements.filter (·.id ∉ ids)).filter (·.id = id) = [] :=
      List.filter_eq_nil_iff.mpr fun e he same => unasked e he (of_decide_eq_true same ▸ listed)
    rw [elements_reorder, List.filter_append, filter_front (nodup_distinct ids),
      if_pos (mem_distinct.mpr listed), behind, List.append_nil, lastOfId?_eq]
  refine ⟨?_, ?_, kept, fun perm id listed => ?_, fun single => ?_⟩
  · rw [elements_reorder, List.pairwise_append]
    refine ⟨?_, List.pairwise_of_forall_mem_list fun d hd e he => ?_, fun d hd e he => ?_⟩
    · refine List.pairwise_filterMap.mpr ((pairwise_distinct ids).imp fun earlier d hd e he => ?_)
      rw [mention, mention, id_of_lastOfId? hd, id_of_lastOfId? he]
      exact earlier.le
    · rw [mention_of_not_mem (unasked d hd), mention_of_not_mem (unasked e he)]
    · rw [mention_of_not_mem (unasked e he)]
      exact List.idxOf_le_length
  · have front :
        ((distinct ids).filterMap (lastOfId? b.template.elements)).filter (·.id ∉ ids) = [] :=
      List.filter_eq_nil_iff.mpr fun e he other => of_decide_eq_true other (asked e he)
    rw [elements_reorder, List.filter_append, front, List.nil_append, List.filter_filter]
    simp only [Bool.and_self]
  · -- nothing is lost, so that of each id there was one element at most
    rw [← (perm.filter _).length_eq, kept id listed]
    cases (b.template.elements.filter (·.id = id)).getLast? <;> simp
  · rw [elements_reorder]
    have listed (id : String) : id ∈ distinct ids ↔ id ∈ ids := mem_distinct
    have front := perm_front b.template.elements (nodup_distinct ids)
      fun id h => single id (mem_distinct.mp h)
    simp only [listed] at front
    refine (front.append_right _).trans ?_
    simpa only [decide_not] using
      List.filter_append_perm (fun e : TemplateElement => decide (e.id ∈ ids)) b.template.elements

/-- Two texts under one id. -/
def twins : Outcome Builder := do
  let b ← create [("name", .str "Offer")]
  let b ← b.add { type := .str "text", content := .obj [("text", .str "first")], id := some "a" }
  b.add { type := .str "text", content := .obj [("text", .str "second")], id := some "a" }

theorem reachable_twins {b : Builder} (h : twins = .ok b) : b.Reachable Value.IsFinite := by
  have given (text : String) : Addition.All Value.IsFinite
      { type := .str "text", content := .obj [("text", .str text)], id := some "a" } := by
    constructor <;> simp
  obtain ⟨start, created, h⟩ := Outcome.bind_eq_ok.mp h
  obtain ⟨one, added, h⟩ := Outcome.bind_eq_ok.mp h
  exact .step (.add _) (.step (.add _) (.create (by simp) created) (given "first") added)
    (given "second") h

/-- When their id is asked for, one of the twins is lost. -/
theorem twin_lost : ¬ ∀ (b : Builder) (ids : List String), b.Reachable Value.IsFinite →
    (b.reorder ids).template.elements.Perm b.template.elements := by
  intro always
  have lengths :
    (fun b => (b.template.elements.length, (b.reorder ["a"]).template.elements.length)) <$> twins =
      .ok (2, 1) := by rfl
  obtain ⟨b, built, counted⟩ := Outcome.map_eq_ok.mp lengths
  obtain ⟨two, one⟩ := Prod.mk.inj counted
  have same := (always b ["a"] (reachable_twins built)).length_eq
  rw [one, two] at same
  cases same

end QuotationPress.Builder
