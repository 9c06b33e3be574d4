import Mathlib.Data.Prod.Lex
import QuotationPress.Proofs.Store.ShownDefaults
import QuotationPress.Proofs.Text.Pattern

/-!
# What a search among the templates lists

`Store.listsRows_found` says that these are the active templates whose name or description the
search finds, each once and in order. `list_search` compares this with a search for words: both are
the same, whatever a store without null characters holds, exactly for the searches that have no
wildcards.
-/

namespace QuotationPress

/-- What templates are listed by: defaults come first, then names in the order of their characters,
then ids. -/
def Template.listKey (t : Template) : Bool ×ₗ String ×ₗ String :=
  toLex (!t.isDefault, toLex (t.name, t.id.getD ""))

namespace TemplateRow

variable {a b c r : TemplateRow} {search : String}

/-! ### Rows in the order of a list -/

/-- What rows are listed by. -/
def listKey (r : TemplateRow) : Bool ×ₗ String ×ₗ String :=
  toLex (!r.isDefault, toLex (r.name, r.id))

/-- The order of the list is the order of the keys. -/
theorem listedBefore_iff : a.listedBefore b = true ↔ a.listKey ≤ b.listKey := by
  rw [listKey, listKey, Prod.Lex.toLex_le_toLex, Prod.Lex.toLex_le_toLex]
  unfold listedBefore
  by_cases marks : a.isDefault = b.isDefault
  · by_cases names : a.name = b.name
    · simp [marks, names]
    · simp [marks, names]
  · cases first : a.isDefault with
    | true => cases second : b.isDefault <;> simp_all
    | false => cases second : b.isDefault <;> simp_all

theorem listedBefore_trans (a b c : TemplateRow) (hab : a.listedBefore b = true)
    (hbc : b.listedBefore c = true) :
    a.listedBefore c = true := by
  rw [listedBefore_iff] at *
  exact hab.trans hbc

theorem listedBefore_total (a b : TemplateRow) : (a.listedBefore b || b.listedBefore a) = true := by
  rw [Bool.or_eq_true, listedBefore_iff, listedBefore_iff]
  exact le_total ..

theorem served_listKey (read : Outcome.Succeeds r.template) :
    (served (some r)).listKey = r.listKey := by
  obtain ⟨es, -, shown⟩ := template_eq_ok.mp (template_served read)
  rw [← shown]
  rfl

/-! ### What a search looks at -/

/-- The search finds the name or the description. -/
def FoundBy (r : TemplateRow) (search : String) : Prop :=
  Text.Finds search r.name ∨ Text.Finds search r.description

/-- The text is a part of the name or the description, but for the case of ASCII letters. -/
def Mentions (r : TemplateRow) (search : String) : Prop :=
  Text.Mentions r.name search ∨ Text.Mentions r.description search

/-- Name and description have no null characters. -/
def IsWhole (r : TemplateRow) : Prop := Text.IsWhole r.name ∧ Text.IsWhole r.description

instance : Decidable (r.FoundBy search) := inferInstanceAs (Decidable (_ ∨ _))

instance : Decidable (r.Mentions search) := inferInstanceAs (Decidable (_ ∨ _))

instance : Decidable r.IsWhole := inferInstanceAs (Decidable (_ ∧ _))

/-- A text without wildcards finds what mentions it. -/
theorem foundBy_iff_mentions (literal : Text.IsLiteral search) (whole : r.IsWhole) :
    r.FoundBy search ↔ r.Mentions search :=
  or_congr (Text.finds_iff_mentions literal whole.1) (Text.finds_iff_mentions literal whole.2)

end TemplateRow

namespace Store

variable {s : Store} {search : String} {limit : Int}

/-- The list for a search has the active templates whose rows are like this, each once and in
order. -/
def ListsRows (s : Store) (search : String) (limit : Int) (P : TemplateRow → Prop)
    [DecidablePred P] : Prop :=
  ∃ ts, s.list { search, limit := some limit } = .ok ts ∧
    ts.Pairwise (fun t t' => t.listKey ≤ t'.listKey) ∧
    (ts.map Except.ok).Perm ((s.rows.filter fun r => r.isActive && P r).map TemplateRow.template)

/-- A search passes active rows that it finds; the empty search finds all. -/
theorem passes_search : TemplateFilter.passes { search, limit := some limit } =
    fun r => r.isActive && decide (r.FoundBy search) := by
  funext r
  have found : decide (r.FoundBy search) = (decide (search = "") || Text.holdsLike search r.name ||
      Text.holdsLike search r.description) := by
    rw [Bool.eq_iff_iff, decide_eq_true_iff, Bool.or_eq_true, Bool.or_eq_true, decide_eq_true_iff,
      Text.holdsLike_iff, Text.holdsLike_iff, TemplateRow.FoundBy, or_assoc]
    refine ⟨.inr, fun h => h.elim ?_ id⟩
    rintro rfl
    exact .inl Text.finds_empty
  simp [TemplateFilter.passes, found]

/-- A search lists the active templates whose name or description it finds. -/
theorem listsRows_found (converts : ∀ r ∈ s.rows, Outcome.Succeeds r.template)
    (enough : s.rows.length ≤ limit) (countable : limit < wordLimit) :
    s.ListsRows search limit fun r => r.FoundBy search := by
  let rows := s.rows.filter fun r => r.isActive && decide (r.FoundBy search)
  have short : (rows.mergeSort TemplateRow.listedBefore).length ≤ limit := by
    have fewer : rows.length ≤ s.rows.length := List.length_filter_le ..
    rw [List.length_mergeSort]
    omega
  have listed : s.listedRows { search, limit := some limit } =
      rows.mergeSort TemplateRow.listedBefore := by
    rw [listedRows, passes_search]
    exact page_of_length_le short
  have reads : ∀ r ∈ rows.mergeSort TemplateRow.listedBefore, Outcome.Succeeds r.template :=
    fun r hr =>
    converts r (List.mem_of_mem_filter (List.mem_mergeSort.mp hr))
  have counts : TemplateFilter.countable { search, limit := some limit } = true := by
    have least : -(wordLimit : Int) ≤ limit := by omega
    exact Bool.and_eq_true_iff.mpr ⟨decide_eq_true least, decide_eq_true countable⟩
  refine ⟨(rows.mergeSort TemplateRow.listedBefore).map fun r => served (some r), ?_, ?_, ?_⟩
  · rw [list, if_pos counts, listed]
    exact Outcome.mapM_eq_ok_map fun r hr => TemplateRow.template_served (reads r hr)
  · -- templates stand in the order of their rows
    rw [List.pairwise_map]
    refine (List.pairwise_mergeSort TemplateRow.listedBefore_trans TemplateRow.listedBefore_total
      rows).imp_of_mem ?_
    intro a b ha hb before
    rw [TemplateRow.served_listKey (reads a ha), TemplateRow.served_listKey (reads b hb)]
    exact TemplateRow.listedBefore_iff.mp before
  · rw [List.map_map]
    have same : (rows.mergeSort TemplateRow.listedBefore).map (Except.ok ∘ fun r =>
      served (some r)) =
        (rows.mergeSort TemplateRow.listedBefore).map TemplateRow.template :=
      List.map_congr_left fun r hr => (TemplateRow.template_served (reads r hr)).symm
    rw [same]
    exact (List.mergeSort_perm _ _).map _

/-- Only the rows of the store matter for what is listed. -/
theorem ListsRows.congr {P Q : TemplateRow → Prop} [DecidablePred P] [DecidablePred Q]
    (h : s.ListsRows search limit P) (same : ∀ r ∈ s.rows, P r ↔ Q r) :
    s.ListsRows search limit Q := by
  obtain ⟨ts, list, ordered, perm⟩ := h
  have rows :
      (s.rows.filter fun r => r.isActive && P r) = s.rows.filter fun r => r.isActive && Q r :=
    List.filter_congr fun r hr => by rw [decide_eq_decide.mpr (same r hr)]
  exact ⟨ts, list, ordered, rows ▸ perm⟩

/-- The same list is not both of all templates that are like this and of all that are like that,
unless they are as many. -/
theorem ListsRows.length_eq {P Q : TemplateRow → Prop} [DecidablePred P] [DecidablePred Q]
    (h : s.ListsRows search limit P) (h' : s.ListsRows search limit Q) :
    (s.rows.filter fun r => r.isActive && P r).length =
      (s.rows.filter fun r => r.isActive && Q r).length := by
  obtain ⟨ts, list, -, perm⟩ := h
  obtain ⟨ts', list', -, perm'⟩ := h'
  obtain rfl := Except.ok.inj (list.symm.trans list')
  have lengths := perm.length_eq.symm.trans perm'.length_eq
  rwa [List.length_map, List.length_map] at lengths

/-- An active template of a name. -/
def rowOfName (name : String) : TemplateRow where
  name := name
  id := "tpl_1"
  createdAt := storeEpoch
  updatedAt := storeEpoch

/-- A store with this template. -/
def ofName (name : String) : Store where
  rows := [rowOfName name]

theorem converts_ofName (name : String) :
    ∀ r ∈ (ofName name).rows, Outcome.Succeeds r.template := by
  refine List.forall_mem_singleton.mpr ?_
  have elements : Outcome.Succeeds (rowOfName "").readElements := by decide +kernel
  exact (Outcome.succeeds_bind_iff_left fun _ => Outcome.succeeds_pure).mpr elements

/-- In every store whose rows can all be read, a search with a limit that is large enough lists the
active templates whose name or description it finds, each once: defaults first, then by name and id.
These are the templates whose name or description mentions the text, in every store without null
characters, exactly if the text has no wildcards and no null character itself. -/
theorem list_search (search : String) :
    (∀ (s : Store) (limit : Int), (∀ r ∈ s.rows, Outcome.Succeeds r.template) →
      s.rows.length ≤ limit →
      limit < wordLimit → s.ListsRows search limit fun r => r.FoundBy search) ∧
    (Text.IsLiteral search ↔
      ∀ (s : Store) (limit : Int), (∀ r ∈ s.rows, Outcome.Succeeds r.template) →
      (∀ r ∈ s.rows, r.IsWhole) → s.rows.length ≤ limit → limit < wordLimit →
        s.ListsRows search limit fun r => r.Mentions search) := by
  refine ⟨fun s limit => listsRows_found, fun literal s limit converts whole enough countable => ?_,
    fun always => ?_⟩
  · exact (listsRows_found converts enough countable).congr fun r hr =>
      TemplateRow.foundBy_iff_mentions literal (whole r hr)
  · by_contra wild
    -- a wildcard finds some name that does not mention it; a store with this one name tells the two
    -- lists apart
    obtain ⟨name, literal, found, unmentioned⟩ := Text.exists_found_unmentioned wild
    have converts := converts_ofName name
    have empty : Text.IsLiteral (rowOfName name).description := by
      change Text.IsLiteral ""
      decide
    have whole : ∀ r ∈ (ofName name).rows, r.IsWhole :=
      List.forall_mem_singleton.mpr ⟨literal.isWhole, empty.isWhole⟩
    have lengths := (always (ofName name) 1 converts whole le_rfl (by decide)).length_eq
      (listsRows_found converts le_rfl (by decide))
    have finds : (rowOfName name).FoundBy search := .inl found
    have misses : ¬ (rowOfName name).Mentions search :=
      not_or.mpr ⟨unmentioned, fun mentioned => wild (mentioned.isLiteral empty)⟩
    have active : (rowOfName name).isActive = true := rfl
    simp [ofName, active, finds, misses] at lengths

theorem threeOffers_searched :
    (∀ r ∈ (edits {} threeOffers).rows, Outcome.Succeeds r.template) ∧
      (∀ r ∈ (edits {} threeOffers).rows, r.IsWhole) ∧
    ((edits {} threeOffers).rows.length : Int) ≤ 100 ∧ (100 : Int) < wordLimit ∧
      Text.IsLiteral "OFF" ∧
    (edits {} threeOffers).ListsRows "OFF" 100 fun r => r.Mentions "OFF" := by
  have converts : ∀ r ∈ (edits {} threeOffers).rows, Outcome.Succeeds r.template := by
    decide +kernel
  have whole : ∀ r ∈ (edits {} threeOffers).rows, r.IsWhole := by decide +kernel
  have enough : ((edits {} threeOffers).rows.length : Int) ≤ 100 := by decide +kernel
  have countable : (100 : Int) < wordLimit := by decide
  have literal : Text.IsLiteral "OFF" := by decide
  exact ⟨converts, whole, enough, countable, literal,
    (list_search "OFF").2.mp literal _ 100 converts whole enough countable⟩

/-- A low line in a search is any character: it finds an offer whose name has none. -/
theorem offer_foundByLine : ¬ ∀ (s : Store) (search : String) (limit : Int), search ≠ "" →
    (∀ r ∈ s.rows, Outcome.Succeeds r.template) → s.rows.length ≤ limit → limit < wordLimit →
      s.ListsRows search limit fun r => r.Mentions search := by
  intro always
  have converts := converts_ofName "Offer"
  have lengths := (always (ofName "Offer") "_" 1 (by decide) converts le_rfl (by decide)).length_eq
    (listsRows_found converts le_rfl (by decide))
  exact absurd lengths (by decide)

end Store

end QuotationPress
