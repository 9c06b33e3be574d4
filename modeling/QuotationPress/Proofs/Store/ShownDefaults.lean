import QuotationPress.Proofs.Store.Resolution

/-!
# Two ways to see the default of a scope

The default of a scope shows in the list of all templates, where each says of which scope it is the
default, and a search for the default finds it. A row with an empty scope is listed under the usual
scope but not found there. `edits_shownDefaults` says for which stores both ways agree: those in
which no default has an empty scope.
-/

namespace QuotationPress

/-- An active template that is shown as the default of a scope. -/
def Template.IsDefaultOf (t : Template) (scope : String) : Prop :=
  t.isActive = true ∧ t.isDefault = true ∧ t.scope = scope

instance (t : Template) (scope : String) : Decidable (t.IsDefaultOf scope) :=
  inferInstanceAs (Decidable (_ ∧ _ ∧ _))

/-! ### What a row is shown as -/

namespace TemplateRow

variable {r : TemplateRow} {scope : String}

theorem served_id (read : Outcome.Succeeds r.template) : (served (some r)).id = some r.id := by
  obtain ⟨es, -, shown⟩ := template_eq_ok.mp (template_served read)
  exact (congrArg Template.id shown).symm

theorem served_createdAt (read : Outcome.Succeeds r.template) :
    (served (some r)).createdAt = some r.createdAt := by
  obtain ⟨es, -, shown⟩ := template_eq_ok.mp (template_served read)
  exact (congrArg Template.createdAt shown).symm

/-- A row is shown as a default of its own scope, or of the usual one if it has none. -/
theorem served_isDefaultOf (read : Outcome.Succeeds r.template) :
    (served (some r)).IsDefaultOf scope ↔
    r.isActive = true ∧ r.isDefault = true ∧ filledText r.scope Settings.defaultScope = scope := by
  obtain ⟨es, -, shown⟩ := template_eq_ok.mp (template_served read)
  rw [← shown]
  exact Iff.rfl

end TemplateRow

/-- A text is filled to a name if it is that name, or if it is empty and the name is filled in. -/
theorem filledText_eq_iff {s fallback scope : String} (named : scope ≠ "") :
    filledText s fallback = scope ↔ s = scope ∨ (s = "" ∧ fallback = scope) := by
  unfold filledText
  by_cases empty : s = ""
  · rw [if_pos empty]
    refine ⟨fun h => .inr ⟨empty, h⟩, ?_⟩
    rintro (rfl | ⟨-, h⟩)
    · exact absurd empty named
    · exact h
  · rw [if_neg empty]
    exact ⟨.inl, fun h => h.resolve_right fun h => empty h.1⟩

namespace Store

variable {s : Store} {r : TemplateRow} {scope : String} {limit : Int}

/-! ### The list of all templates -/

/-- A limit that is not reached leaves the whole list. -/
theorem page_of_length_le {α : Type} {xs : List α} (short : xs.length ≤ limit) :
    TemplateFilter.page { limit := some limit } xs = xs := by
  have above : ¬ limit < 0 := by omega
  have all : xs.length ≤ limit.toNat := by omega
  simp only [TemplateFilter.page, if_neg above]
  exact List.take_of_length_le all

/-- A limit that no store of this size reaches leaves all active rows. -/
theorem listedRows_perm (enough : s.rows.length ≤ limit) :
    (s.listedRows { limit := some limit }).Perm (s.rows.filter TemplateRow.isActive) := by
  have passes : TemplateFilter.passes { limit := some limit } = TemplateRow.isActive := by
    funext r
    simp [TemplateFilter.passes]
  have short : ((s.rows.filter TemplateRow.isActive).mergeSort TemplateRow.listedBefore).length ≤
      limit := by
    have fewer : (s.rows.filter TemplateRow.isActive).length ≤ s.rows.length :=
      List.length_filter_le ..
    rw [List.length_mergeSort]
    omega
  rw [listedRows, passes, page_of_length_le short]
  exact List.mergeSort_perm _ _

theorem mem_listedRows (enough : s.rows.length ≤ limit) :
    r ∈ s.listedRows { limit := some limit } ↔ r ∈ s.rows ∧ r.isActive = true :=
  (listedRows_perm enough).mem_iff.trans List.mem_filter

/-- Rows that can all be read are listed as they are served. -/
theorem list_eq_ok (converts : ∀ r ∈ s.rows, Outcome.Succeeds r.template)
    (enough : s.rows.length ≤ limit) (countable : limit < wordLimit) :
    s.list { limit := some limit } =
      .ok ((s.listedRows { limit := some limit }).map fun r => served (some r)) := by
  have counts : TemplateFilter.countable { limit := some limit } = true := by
    have least : -(wordLimit : Int) ≤ limit := by omega
    have fits : (-(wordLimit : Int) ≤ limit && limit < wordLimit) = true :=
      Bool.and_eq_true_iff.mpr ⟨decide_eq_true least, decide_eq_true countable⟩
    exact fits
  unfold list
  rw [if_pos counts]
  refine Outcome.mapM_eq_ok_map fun r hr => ?_
  exact TemplateRow.template_served (converts r ((mem_listedRows enough).mp hr).1)

/-! ### Both views -/

theorem defaultTemplate_of_named (named : scope ≠ "") :
    s.defaultTemplate scope = served (s.defaultRow? scope) := by
  have own : filledText scope Settings.defaultScope = scope := if_neg named
  rw [defaultTemplate_eq, own]

/-- The one default of a scope is found. -/
theorem defaultRow?_of_default (unique : s.UniqueIds) (single : s.SingleDefaults)
    (stored : r ∈ s.rows) (marked : r.IsDefaultOf scope) : s.defaultRow? scope = some r := by
  have unnamed : ∀ x ∈ s.rows, ¬ x.IsNamed "" := fun x _ => x.not_isNamed_empty
  have latest : ∀ x ∈ s.rows, x.IsDefaultOf scope → ¬ x.LaterThan r := by
    intro x hx h
    rw [single.eq_of_scope_eq hx stored h.2 marked.2 (h.1.2.trans marked.1.2.symm),
      TemplateRow.laterThan_iff]
    omega
  exact (chosen_defaultRow? unnamed scope).unique unique single
    (.marked r unnamed stored marked latest)

/-- What a search for a default has found is no row of another scope. -/
theorem scope_of_defaultTemplate_eq (unique : s.UniqueIds)
    (converts : ∀ r ∈ s.rows, Outcome.Succeeds r.template) (named : scope ≠ "")
    (stored : r ∈ s.rows) (same : s.defaultTemplate scope = served (some r)) :
    r.scope = scope := by
  rw [defaultTemplate_of_named named] at same
  have chosen : s.Chosen "" scope (s.defaultRow? scope) :=
    chosen_defaultRow? (fun x _ => x.not_isNamed_empty) scope
  cases found : s.defaultRow? scope with
  | none =>
    -- the built-in template has no date, rows have one
    have undated : fallbackTemplate.createdAt = none := by decide +kernel
    have dated := TemplateRow.served_createdAt (converts r stored)
    rw [← same, found, served, undated] at dated
    cases dated
  | some x =>
    rw [found] at same chosen
    have ids : some x.id = some r.id := by
      rw [← TemplateRow.served_id (converts x chosen.mem), same,
        TemplateRow.served_id (converts r stored)]
    rw [← unique.eq_of_id_eq chosen.mem stored (Option.some.inj ids)]
    cases chosen with
    | named _ _ h => exact absurd rfl h.1
    | marked _ _ _ h _ => exact h.1.2
    | oldest _ _ _ _ h _ => exact h.2

theorem SingleDefaults.eq_of_mem_defaultsOf (single : s.SingleDefaults) {a b : TemplateRow}
    (ha : a ∈ s.defaultsOf scope) (hb : b ∈ s.defaultsOf scope) : a = b := by
  obtain ⟨storedA, scopeA, defaultA⟩ := mem_defaultsOf.mp ha
  obtain ⟨storedB, scopeB, defaultB⟩ := mem_defaultsOf.mp hb
  exact single.eq_of_scope_eq storedA storedB defaultA defaultB (scopeA.trans scopeB.symm)

/-- The rows that are listed as defaults of a scope: its own, and under the usual scope those
without one. -/
theorem listed_isDefaultOf_iff (single : s.SingleDefaults)
    (converts : ∀ r ∈ s.rows, Outcome.Succeeds r.template) (enough : s.rows.length ≤ limit)
    (named : scope ≠ "") :
    r ∈ s.listedRows { limit := some limit } ∧ (served (some r)).IsDefaultOf scope ↔
      r ∈ s.defaultsOf scope ∨ (scope = Settings.defaultScope ∧ r ∈ s.defaultsOf "") := by
  rw [mem_listedRows enough, mem_defaultsOf, mem_defaultsOf]
  constructor
  · rintro ⟨⟨stored, -⟩, shown⟩
    obtain ⟨-, isDefault, filled⟩ := (TemplateRow.served_isDefaultOf (converts r stored)).mp shown
    rcases (filledText_eq_iff named).mp filled with own | ⟨unscoped, usual⟩
    · exact .inl ⟨stored, own, isDefault⟩
    · exact .inr ⟨usual.symm, stored, unscoped, isDefault⟩
  · intro marked
    have placed : r ∈ s.rows ∧ r.isDefault = true ∧
        (r.scope = scope ∨ (r.scope = "" ∧ Settings.defaultScope = scope)) := by
      rcases marked with ⟨stored, own, isDefault⟩ | ⟨usual, stored, unscoped, isDefault⟩
      · exact ⟨stored, isDefault, .inl own⟩
      · exact ⟨stored, isDefault, .inr ⟨unscoped, usual.symm⟩⟩
    obtain ⟨stored, isDefault, shown⟩ := placed
    have active := single.active r stored isDefault
    have filled := (filledText_eq_iff named).mpr shown
    exact ⟨⟨stored, active⟩,
      (TemplateRow.served_isDefaultOf (converts r stored)).mpr ⟨active, isDefault, filled⟩⟩

/-- The templates that are listed as the default of a scope are found as its default, unless a
default without a scope is listed among them. -/
theorem agree_iff (unique : s.UniqueIds) (single : s.SingleDefaults)
    (converts : ∀ r ∈ s.rows, Outcome.Succeeds r.template) (enough : s.rows.length ≤ limit)
    (named : scope ≠ "") :
    (∀ r ∈ s.listedRows { limit := some limit }, (served (some r)).IsDefaultOf scope →
        s.defaultTemplate scope = served (some r)) ↔
      (scope = Settings.defaultScope → s.defaultsOf "" = []) := by
  have listed := fun r => listed_isDefaultOf_iff (r := r) single converts enough named
  constructor
  · intro agree usual
    refine List.eq_nil_iff_forall_not_mem.mpr fun r hr => ?_
    obtain ⟨hlist, shown⟩ := (listed r).mpr (.inr ⟨usual, hr⟩)
    obtain ⟨stored, unscoped, -⟩ := mem_defaultsOf.mp hr
    have own := scope_of_defaultTemplate_eq unique converts named stored (agree r hlist shown)
    exact named (own.symm.trans unscoped)
  · intro vacant r hlist shown
    -- the row is of the scope itself, or of none under the usual one
    rcases (listed r).mp ⟨hlist, shown⟩ with hr | ⟨usual, hr⟩
    · obtain ⟨stored, own, isDefault⟩ := mem_defaultsOf.mp hr
      have marked : r.IsDefaultOf scope := ⟨⟨single.active r stored isDefault, own⟩, isDefault⟩
      rw [defaultTemplate_of_named named, defaultRow?_of_default unique single stored marked]
    · rw [vacant usual] at hr
      cases hr

/-- No two templates are listed as defaults of a scope, unless one of them has no scope. -/
theorem apart_iff (unique : s.UniqueIds) (single : s.SingleDefaults)
    (converts : ∀ r ∈ s.rows, Outcome.Succeeds r.template) (enough : s.rows.length ≤ limit)
    (named : scope ≠ "") :
    ((s.listedRows { limit := some limit }).Pairwise fun a b =>
        ¬ ((served (some a)).IsDefaultOf scope ∧ (served (some b)).IsDefaultOf scope)) ↔
      (scope = Settings.defaultScope → s.defaultsOf "" = [] ∨ s.defaultsOf scope = []) := by
  have listed := fun r => listed_isDefaultOf_iff (r := r) single converts enough named
  constructor
  · intro apart usual
    by_contra both
    rw [not_or] at both
    obtain ⟨a, ha⟩ := List.exists_mem_of_ne_nil _ both.1
    obtain ⟨b, hb⟩ := List.exists_mem_of_ne_nil _ both.2
    -- the two rows are in different scopes
    have hab : a ≠ b := by
      rintro rfl
      exact named ((mem_defaultsOf.mp hb).2.1.symm.trans (mem_defaultsOf.mp ha).2.1)
    obtain ⟨listA, shownA⟩ := (listed a).mpr (.inr ⟨usual, ha⟩)
    obtain ⟨listB, shownB⟩ := (listed b).mpr (.inl hb)
    have symm : Std.Symm fun a b : TemplateRow =>
      ¬ ((served (some a)).IsDefaultOf scope ∧ (served (some b)).IsDefaultOf scope) :=
        ⟨fun _ _ h h' => h h'.symm⟩
    exact apart.forall listA listB hab ⟨shownA, shownB⟩
  · intro vacant
    have nodup : (s.listedRows { limit := some limit }).Nodup :=
      (listedRows_perm enough).nodup_iff.mpr ((List.Nodup.of_map _ unique).filter _)
    -- a default without a scope has no default of the scope beside it
    have alone {a b : TemplateRow} (usual : scope = Settings.defaultScope)
      (ha : a ∈ s.defaultsOf "") :
        b ∉ s.defaultsOf scope := by
      intro hb
      rcases vacant usual with empty | empty
      · rw [empty] at ha
        cases ha
      · rw [empty] at hb
        cases hb
    refine nodup.pairwise_of_forall_ne fun a listA b listB hab => ?_
    rintro ⟨shownA, shownB⟩
    rcases (listed a).mp ⟨listA, shownA⟩ with ha | ⟨usual, ha⟩
    · rcases (listed b).mp ⟨listB, shownB⟩ with hb | ⟨usual, hb⟩
      · exact hab (single.eq_of_mem_defaultsOf ha hb)
      · exact alone usual hb ha
    · rcases (listed b).mp ⟨listB, shownB⟩ with hb | ⟨-, hb⟩
      · exact alone usual ha hb
      · exact hab (single.eq_of_mem_defaultsOf ha hb)

/-- After every run of edits that leaves rows that can be read, and for every scope: the templates
that a long enough list shows as active defaults of the scope are the one that a search for its
default finds, exactly if the scope is not the usual one or no default has an empty scope. The list
shows no two of them, exactly if the scope is not the usual one or not both a default of the scope
and one of the empty scope are stored. -/
theorem edits_shownDefaults (clock : Moment) (issued : Nat) (es : List StoreEdit)
    (converts : ∀ r ∈ (edits { clock, issued } es).rows, Outcome.Succeeds r.template)
    (enough : (edits { clock, issued } es).rows.length ≤ limit) (countable : limit < wordLimit)
    (named : scope ≠ "") :
    ∃ ts, (edits { clock, issued } es).list { limit := some limit } = .ok ts ∧
      ((∀ t ∈ ts, t.IsDefaultOf scope → (edits { clock, issued } es).defaultTemplate scope = t) ↔
        (scope = Settings.defaultScope → (edits { clock, issued } es).defaultsOf "" = [])) ∧
      ((ts.Pairwise fun t t' => ¬ (t.IsDefaultOf scope ∧ t'.IsDefaultOf scope)) ↔
        (scope = Settings.defaultScope → (edits { clock, issued } es).defaultsOf "" = [] ∨
          (edits { clock, issued } es).defaultsOf scope = [])) := by
  obtain ⟨unique, single⟩ := edits_single clock issued es
  refine ⟨_, list_eq_ok converts enough countable, ?_, ?_⟩
  · rw [List.forall_mem_map]
    exact agree_iff unique single converts enough named
  · rw [List.pairwise_map]
    exact apart_iff unique single converts enough named

/-- The offers with a default that is listed and found, and the only one. -/
theorem threeOffers_shown :
    (∀ r ∈ (edits {} threeOffers).rows, Outcome.Succeeds r.template) ∧
    ((edits {} threeOffers).rows.length : Int) ≤ 100 ∧ (100 : Int) < wordLimit ∧ "quotation" ≠ "" ∧
    ∃ ts, (edits {} threeOffers).list { limit := some 100 } = .ok ts ∧
      (∀ t ∈ ts, t.IsDefaultOf "quotation" →
        (edits {} threeOffers).defaultTemplate "quotation" = t) ∧
      ts.Pairwise fun t t' => ¬ (t.IsDefaultOf "quotation" ∧ t'.IsDefaultOf "quotation") := by
  have converts : ∀ r ∈ (edits {} threeOffers).rows, Outcome.Succeeds r.template := by
    decide +kernel
  have enough : ((edits {} threeOffers).rows.length : Int) ≤ 100 := by decide +kernel
  have countable : (100 : Int) < wordLimit := by decide
  have named : "quotation" ≠ "" := by decide
  have vacant : (edits {} threeOffers).defaultsOf "" = [] := by decide +kernel
  obtain ⟨ts, list, agree, apart⟩ :=
    edits_shownDefaults storeEpoch 0 threeOffers converts enough countable named
  exact ⟨converts, enough, countable, named, ts, list, agree.mpr fun _ => vacant,
    apart.mpr fun _ => .inl vacant⟩

/-- A default template with an empty scope. -/
def unscopedOffer : StoreEdit :=
  .create { body := { name := "Offer", scope := "" }, isDefault := true }

/-- A default template of the usual scope. -/
def usualLetter : StoreEdit := .create { body := { name := "Letter" }, isDefault := true }

/-- A default with an empty scope is listed as the default of the usual scope, where it is not
found; and it is listed so beside the default of that scope. -/
theorem unscopedOffer_shown :
    (∃ ts, (edits {} [unscopedOffer]).list {} = .ok ts ∧
      ∃ t ∈ ts, t.IsDefaultOf "quotation" ∧
        (edits {} [unscopedOffer]).defaultTemplate "quotation" ≠ t) ∧
    ∃ ts, (edits {} [unscopedOffer, usualLetter]).list {} = .ok ts ∧
      ¬ ts.Pairwise fun t t' => ¬ (t.IsDefaultOf "quotation" ∧ t'.IsDefaultOf "quotation") := by
  have converts : ∀ r ∈ (edits {} [unscopedOffer, usualLetter]).rows,
      Outcome.Succeeds r.template := by
    decide +kernel
  have convertsOne : ∀ r ∈ (edits {} [unscopedOffer]).rows, Outcome.Succeeds r.template := by
    decide +kernel
  have countable : (100 : Int) < wordLimit := by decide
  have both : ¬ ("quotation" = Settings.defaultScope →
    (edits {} [unscopedOffer, usualLetter]).defaultsOf "" = [] ∨
      (edits {} [unscopedOffer, usualLetter]).defaultsOf "quotation" = []) := by decide +kernel
  have other : ∃ t ∈ ((edits {} [unscopedOffer]).listedRows {}).map (fun r => served (some r)),
      t.IsDefaultOf "quotation" ∧
        ((edits {} [unscopedOffer]).defaultTemplate "quotation").id ≠ t.id := by
    decide +kernel
  refine ⟨⟨_, list_eq_ok convertsOne (by decide +kernel) countable, ?_⟩,
    ⟨_, list_eq_ok converts (by decide +kernel) countable, ?_⟩⟩
  · obtain ⟨t, ht, shown, differ⟩ := other
    exact ⟨t, ht, shown, fun same => differ (congrArg Template.id same)⟩
  · obtain ⟨unique, single⟩ := edits_single storeEpoch 0 [unscopedOffer, usualLetter]
    rw [List.pairwise_map]
    exact fun apart =>
      both ((apart_iff unique single converts (by decide +kernel) (by decide)).mp apart)

end Store

end QuotationPress
