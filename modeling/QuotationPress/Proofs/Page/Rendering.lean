import QuotationPress.Proofs.Page.Drawing

/-!
# When a page is rendered

`Renderable` says what has to hold of a template and a context for it: the amounts among the totals
have texts, the margins are not too large, and every visible element can be drawn.
`renderPage_succeeds_iff` says that there is a page exactly then, so that one element or one value
of the context is enough to leave a document without its page; `largeTotal_unrendered` is such a
document.
-/

namespace QuotationPress

open Outcome (Succeeds Ensures)
open Format (Overflows)
open Merge (Lookup HasText BelowTotals)

/-! ### Style sheets -/

/-- A length can be written exactly if it is no integer beyond the floats. -/
theorem InlineStyle.succeeds_length_iff {v : Value} (json : v.IsJson) :
    Succeeds (length v) ↔ ¬ Overflows v := by
  have text := json.succeeds_text
  cases json with
  | @int i short =>
    rw [length, Overflows, not_le, ← Binary64.isFinite_ofInt_iff]
    split
    · next finite => exact iff_of_true Outcome.succeeds_ok finite
    · next infinite => exact iff_of_false Outcome.not_succeeds_error infinite
  | float one => exact iff_of_true Outcome.succeeds_ok not_false
  | _ => exact iff_of_true text not_false

/-- The margin of a side in the settings of a template. -/
def Template.margin (t : Template) (side : String) : Value :=
  marginOf (((t.settings.get "margins").fields?).getD []) side

/-- Each margin is a value that JSON has, given or not. -/
theorem Template.IsJson.margin {t : Template} (json : t.IsJson) (side : String) :
    (t.margin side).IsJson := by
  have margins := (json.settings.get "margins").fields
  unfold Template.margin marginOf
  cases given : Fields.get? (((t.settings.get "margins").fields?).getD []) side with
  | none => exact .int (by decide)
  | some v => exact margins.of_get? given

theorem Palette.succeeds_branded {branding : Fields} (json : (Value.obj branding).IsJson)
    (key fallback : String) : Succeeds (branded branding key fallback) := by
  unfold branded
  dsimp only
  split
  · exact (json.get key).succeeds_text
  · exact Outcome.succeeds_ok

/-- There is a palette for every theme and branding. -/
theorem Palette.succeeds_of {branding : Fields} (json : (Value.obj branding).IsJson)
    (theme : String) :
    Succeeds (of theme branding) := by
  have given (key fallback : String) := succeeds_branded json key fallback
  -- each of the four entries is the branding's or the theme's
  obtain ⟨primary, hprimary⟩ := given "primaryColor" (ofTheme theme).primaryColor
  obtain ⟨secondary, hsecondary⟩ := given "secondaryColor" (ofTheme theme).secondaryColor
  obtain ⟨accent, haccent⟩ := given "accentColor" (ofTheme theme).accentColor
  obtain ⟨font, hfont⟩ := given "fontFamily" (ofTheme theme).fontFamily
  exact ⟨_, by rw [of, hprimary, hsecondary, haccent, hfont]; rfl⟩

/-- The style sheet can be written exactly if the four margins can. -/
theorem succeeds_themeCss_iff {t : Template} (json : t.IsJson) (preview : Bool) :
    Succeeds (themeCss t preview) ↔
      ∀ side ∈ ["top", "right", "bottom", "left"], ¬ Overflows (t.margin side) := by
  have margins : Succeeds (marginsCss t.settings) ↔
      ∀ side ∈ ["top", "right", "bottom", "left"], ¬ Overflows (t.margin side) := by
    rw [marginsCss, Outcome.succeeds_bind_iff_left fun _ => Outcome.succeeds_pure,
      Outcome.succeeds_mapM]
    exact forall₂_congr fun side _ => InlineStyle.succeeds_length_iff (json.margin side)
  rw [← margins]
  refine Outcome.succeeds_bind_iff_right (Palette.succeeds_of json.branding t.theme) fun _ _ => ?_
  exact Outcome.succeeds_bind_iff_left fun _ => Outcome.succeeds_pure

/-! ### The data of a document -/

namespace Merge

variable {symbol : String} {c : RenderContext} {l : Lookup}

theorem Lookup.succeeds_of?_iff (json : c.IsJson) (symbol : String) :
    Succeeds (of? symbol c) ↔ ∀ e ∈ flatten (.obj c.mapping), HasText e.1 e.2 := by
  rw [← succeeds_leafTexts_iff symbol (isJson_flatten json.mapping)]
  exact Outcome.succeeds_bind_iff_left fun _ => Outcome.succeeds_pure

theorem Lookup.data_of? (h : of? symbol c = .ok l) : l.data = c.mapping := by
  obtain ⟨table, -, h⟩ := Outcome.bind_eq_ok.mp h
  rw [← Except.ok.inj h]

/-- What is known of the quotation itself is an object, so that no path into it fails. -/
theorem Lookup.reaches_quotation (h : of? symbol c = .ok l) {path : String} (name : String)
    (split : Text.splitAt '.' path = ["quotation", name]) (alone : otherPath? path = none) :
    l.Reaches path := by
  refine ⟨?_, fun _ other found => nomatch alone.symm.trans found⟩
  rw [split, data_of? h, Value.stumbles_obj_iff]
  have quotation : Fields.get c.mapping "quotation" = .obj c.mirrored.quotation := rfl
  rw [quotation, Value.stumbles_obj_iff]
  exact nofun

theorem Lookup.succeeds_resolve_quotation (json : c.IsJson) (h : of? symbol c = .ok l)
    {path : String} (name : String) (split : Text.splitAt '.' path = ["quotation", name])
    (alone : otherPath? path = none) (elsewhere : ¬ BelowTotals path) :
    Succeeds (l.resolve path) := by
  have data : (Value.obj l.data).IsJson := data_of? h ▸ json.mapping
  exact (succeeds_resolve_iff data path).mpr
    (.inr ⟨reaches_quotation h name split alone, fun _ _ below => absurd below elsewhere⟩)

end Merge

/-- The number in the title can always be told. -/
theorem succeeds_titleNumber {symbol : String} {c : RenderContext} {l : Lookup}
    (h : Lookup.of? symbol c = .ok l) : Succeeds (titleNumber l) := by
  rw [titleNumber, Outcome.succeeds_bind_iff_left fun _ => Outcome.succeeds_pure,
    Lookup.succeeds_raw_iff]
  exact Lookup.reaches_quotation h "number" (by decide) (by decide)

theorem isJson_of_titleNumber {l : Lookup} (json : (Value.obj l.data).IsJson) {number : Value}
    (h : titleNumber l = .ok number) : number.IsJson := by
  obtain ⟨v, found, h⟩ := Outcome.bind_eq_ok.mp h
  rw [← Except.ok.inj h]
  split
  · exact .str _
  · exact Lookup.isJson_of_raw json found

/-! ### Markup -/

namespace ElementView

/-- A header shows the logo of the branding. -/
def ShowsLogo (branding : Fields) : ElementView → Prop
  | header _ _ _ _ logo => logo = (branding.get "logoUrl").orElse (.str "")
  | _ => True

variable {e : TemplateElement} {l : Lookup} {branding : Fields}

/-- Whatever a header says, it has the logo of the branding. -/
theorem ensures_headerView {P : ElementView → Prop} (c : HeaderContent)
    (h : ∀ frame title subtitle details,
      P (header frame title subtitle details ((branding.get "logoUrl").orElse (.str "")))) :
    (headerView e c l branding).Ensures P := by
  -- title and subtitle come last in each of the four cases
  have texts (frame : Frame) (details : List (String × String)) :
      Ensures P (do
        let title ← l.mergeText c.title
        let subtitle ← l.mergeText? c.subtitle
        return header frame title subtitle details ((branding.get "logoUrl").orElse (.str ""))) :=
    Outcome.ensures_bind fun _ => Outcome.ensures_bind fun _ => Outcome.ensures_pure (h ..)
  unfold headerView
  simp only [pure_bind]
  refine Outcome.ensures_bind fun frame => Outcome.ensures_ite ?_ ?_
  · refine Outcome.ensures_bind fun number => Outcome.ensures_ite ?_ ?_
    · exact Outcome.ensures_bind fun date => texts _ _
    · exact texts _ _
  · refine Outcome.ensures_ite ?_ ?_
    · exact Outcome.ensures_bind fun date => texts _ _
    · exact texts _ _

/-- A view made of a content shows the logo of the branding, if any. -/
theorem showsLogo_ofContent (kind : ElementKind) (content : Content) :
    (ofContent e kind content l branding).Ensures (ShowsLogo branding) := by
  open Outcome in
  cases content with
  | header c => exact ensures_headerView c fun _ _ _ _ => rfl
  | info c =>
    exact ensures_bind fun _ => ensures_bind fun _ => ensures_bind fun _ => ensures_pure trivial
  | table c =>
    exact ensures_bind_ite fun _ => ensures_bind fun _ => ensures_bind fun _ =>
      ensures_bind fun _ =>
      ensures_pure trivial
  | totals c =>
    exact ensures_bind fun _ => ensures_bind fun _ => ensures_bind fun _ => ensures_pure trivial
  | terms c =>
    exact ensures_bind fun _ => ensures_bind fun _ => ensures_bind_ite fun _ =>
      ensures_bind_ite fun _ => ensures_pure trivial
  | signature c =>
    exact ensures_bind fun _ => ensures_bind fun _ => ensures_bind_ite fun _ => ensures_pure trivial
  | text c =>
    exact ensures_bind fun _ => ensures_bind fun _ => ensures_bind fun _ => ensures_pure trivial

theorem showsLogo_of : (of e l branding).Ensures (ShowsLogo branding) := by
  have plain : (plainView e l).Ensures (ShowsLogo branding) :=
    Outcome.ensures_bind fun _ => Outcome.ensures_bind fun _ => Outcome.ensures_pure trivial
  unfold of
  split
  · exact plain
  · split
    · exact showsLogo_ofContent _ _
    · exact plain

/-- Only the logo can fail to be written, and it is a value that JSON has. -/
theorem succeeds_markup (json : (Value.obj branding).IsJson) {v : ElementView}
    (h : v.ShowsLogo branding) :
    Succeeds v.markup := by
  cases v with
  | header frame title subtitle details logo =>
    rw [ShowsLogo] at h
    have given : logo.IsJson := h ▸ (json.get "logoUrl").orElse (.str "")
    refine (Outcome.succeeds_bind_iff_left fun _ => Outcome.succeeds_pure).mpr ?_
    unfold logoLine
    split
    · exact (Outcome.succeeds_bind_iff_left fun _ => Outcome.succeeds_pure).mpr given.succeeds_text
    · exact Outcome.succeeds_ok
  | _ => exact Outcome.succeeds_ok

end ElementView

/-! ### Pages -/

/-- All that a page shows can be told. -/
structure Renderable (t : Template) (c : RenderContext) : Prop where
  /-- Be they shown or not. -/
  totals : ∀ e ∈ flatten (.obj c.mapping), HasText e.1 e.2
  margins : ∀ side ∈ ["top", "right", "bottom", "left"], ¬ Overflows (t.margin side)
  elements : ∀ symbol l, currencySymbol t.settings = .ok symbol → Lookup.of? symbol c = .ok l →
    ∀ e ∈ t.elements, e.visible = true → e.Drawable l

/-- The elements can be shown exactly if the visible ones can be drawn. -/
theorem succeeds_elementViews_iff {symbol : String} {c : RenderContext} (json : c.IsJson)
    {l : Lookup} (h : Lookup.of? symbol c = .ok l) {es : List TemplateElement}
    (given : ∀ e ∈ es, e.IsJson) (branding : Fields) :
    Succeeds (elementViews l branding es) ↔ ∀ e ∈ es, e.visible = true → e.Drawable l := by
  have data : (Value.obj l.data).IsJson := Lookup.data_of? h ▸ json.mapping
  have number : Succeeds (l.resolve "quotation.number") :=
    Lookup.succeeds_resolve_quotation json h "number" (by decide) (by decide) (by decide)
  have date : Succeeds (l.resolve "quotation.date") :=
    Lookup.succeeds_resolve_quotation json h "date" (by decide) (by decide) (by decide)
  rw [elementViews, Outcome.succeeds_mapM]
  simp only [List.mem_filter, and_imp]
  exact forall₂_congr fun e he => imp_congr_right fun _ =>
    ElementView.succeeds_of_iff data (given e he) branding number date

variable {t : Template} {c : RenderContext}

/-- There is a page exactly if the data can be looked up, and then the elements drawn and the
margins written. -/
theorem succeeds_pageOf_iff (json : t.IsJson) (data : c.IsJson) (preview : Bool) {symbol : String}
    (written : currencySymbol t.settings = .ok symbol) :
    Succeeds (pageOf t c preview) ↔ (∀ e ∈ flatten (.obj c.mapping), HasText e.1 e.2) ∧
      ∀ l, Lookup.of? symbol c = .ok l → (∀ e ∈ t.elements, e.visible = true → e.Drawable l) ∧
        ∀ side ∈ ["top", "right", "bottom", "left"], ¬ Overflows (t.margin side) := by
  rw [pageOf, written, Outcome.ok_bind, Outcome.succeeds_bind_iff_forall,
    Lookup.succeeds_of?_iff data]
  refine and_congr_right fun _ => forall₂_congr fun l h => ?_
  have known : (Value.obj l.data).IsJson := Lookup.data_of? h ▸ data.mapping
  rw [← succeeds_elementViews_iff data h json.elements t.branding,
    ← succeeds_themeCss_iff json preview]
  refine Outcome.succeeds_bind_iff_and fun views drawn => ?_
  -- the title fails nowhere, and neither do the markups of views that have been drawn
  refine Outcome.succeeds_bind_iff_right (succeeds_titleNumber h) fun number told => ?_
  refine Outcome.succeeds_bind_iff_left fun css => ?_
  have markups : Succeeds (views.mapM ElementView.markup) :=
    Outcome.succeeds_mapM.mpr fun v hv => by
    obtain ⟨e, -, shown⟩ := Outcome.mem_of_mapM_eq_ok drawn hv
    exact ElementView.succeeds_markup json.branding (ElementView.showsLogo_of v shown)
  refine (Outcome.succeeds_bind_iff_right (isJson_of_titleNumber known told).succeeds_text
    fun _ _ => ?_).mpr
    markups
  exact Outcome.succeeds_bind_iff_left fun _ => Outcome.succeeds_pure

/-- There is a page exactly if all that it shows can be told, as a preview or not. -/
theorem renderPage_succeeds_iff (json : t.IsJson) (data : c.IsJson) (preview : Bool) :
    Succeeds (renderPage t c preview) ↔ Renderable t c := by
  obtain ⟨symbol, written⟩ : Succeeds (currencySymbol t.settings) :=
    ((json.settings.get "currencySymbol").orElse (.str defaultSymbol)).succeeds_text
  rw [renderPage, Outcome.succeeds_bind_iff_left fun _ => Outcome.succeeds_pure,
    succeeds_pageOf_iff json data preview written]
  constructor
  · rintro ⟨totals, rest⟩
    obtain ⟨l, h⟩ := (Lookup.succeeds_of?_iff data symbol).mpr totals
    refine ⟨totals, (rest l h).2, fun s l' told found => ?_⟩
    obtain rfl := Except.ok.inj (written.symm.trans told)
    exact (rest l' found).1
  · rintro ⟨totals, margins, elements⟩
    exact ⟨totals, fun l h => ⟨elements symbol l written h, margins⟩⟩

/-- A template with a table of the items and the totals below it. -/
def tabledOffer : Value :=
  .obj [("name", .str "Offer"),
    ("elements", .list [
      .obj [("id", .str "a"), ("type", .str "items_table"),
        ("content", .obj [("columns", .list [.str "no", .str "name", .str "rate"])])],
      .obj [("id", .str "b"), ("type", .str "totals")]]),
    ("settings", .obj [("margins", .obj [("top", .int 30)])])]

/-- One item, whose rate is also the total. -/
def singleItem : Value :=
  .obj [("items", .list [.obj [("name", .str "Crane"), ("rate", .int 300)]]),
    ("totals", .obj [("total", .int 300)])]

/-- The offer is a value that JSON has. -/
theorem isJson_tabledOffer : tabledOffer.IsJson := by
  refine .obj (by decide) ?_
  simp only [List.forall_mem_cons]
  refine ⟨.str _, .list ?_, .obj (by decide) ?_, nofun⟩
  · simp only [List.forall_mem_cons]
    refine ⟨.obj (by decide) ?_, .obj (by decide) ?_, nofun⟩ <;> simp only [List.forall_mem_cons]
    · refine ⟨.str _, .str _, .obj (by decide) (List.forall_mem_singleton.mpr (.list ?_)), nofun⟩
      simp only [List.forall_mem_cons]
      exact ⟨.str _, .str _, .str _, nofun⟩
    · exact ⟨.str _, .str _, nofun⟩
  · exact List.forall_mem_singleton.mpr
      (.obj (by decide) (List.forall_mem_singleton.mpr (.int (by decide))))

theorem isJson_singleItem : singleItem.IsJson := by
  refine .obj (by decide) ?_
  simp only [List.forall_mem_cons]
  refine ⟨.list (List.forall_mem_singleton.mpr (.obj (by decide) ?_)),
    .obj (by decide) (List.forall_mem_singleton.mpr (.int (by decide))), nofun⟩
  simp only [List.forall_mem_cons]
  exact ⟨.str _, .int (by decide), nofun⟩

/-- The page that a template makes of a context, both given as loosely typed data. -/
def renderedPage (template context : Value) : Outcome String := do
  let t ← Template.read? template
  renderPage t (← RenderContext.read? context) false

theorem renderedPage_eq {template context : Value} {t : Template} {c : RenderContext}
    (ht : Template.read? template = .ok t) (hc : RenderContext.read? context = .ok c) :
    renderedPage template context = renderPage t c false := by
  rw [renderedPage, ht, hc]
  rfl

theorem tabledOffer_renderable : ∃ t c, Template.read? tabledOffer = .ok t ∧
    RenderContext.read? singleItem = .ok c ∧ t.IsJson ∧ c.IsJson ∧ Renderable t c := by
  obtain ⟨t, ht⟩ : Succeeds (Template.read? tabledOffer) := by decide +kernel
  obtain ⟨c, hc⟩ : Succeeds (RenderContext.read? singleItem) := by decide +kernel
  -- the page is computed, and the theorem says what follows from there being one
  have page : Succeeds (renderedPage tabledOffer singleItem) := by decide +kernel
  rw [renderedPage_eq ht hc] at page
  have json := Template.isJson_of_read? isJson_tabledOffer ht
  have data := RenderContext.isJson_of_read? isJson_singleItem hc
  exact ⟨t, c, ht, hc, json, data, (renderPage_succeeds_iff json data false).mp page⟩

/-- A template with one text and no placeholders. -/
def greetingOffer : Value :=
  .obj [("name", .str "Offer"),
    ("elements", .list [.obj [("type", .str "text"), ("id", .str "a"), ("content", .str "hello")]])]

def largeTotal : Value := .obj [("totals", .obj [("total", .int (10 ^ 29))])]

theorem isJson_greetingOffer : greetingOffer.IsJson := by
  refine .obj (by decide) ?_
  simp only [List.forall_mem_cons]
  refine ⟨.str _, .list (List.forall_mem_singleton.mpr (.obj (by decide) ?_)), nofun⟩
  simp only [List.forall_mem_cons]
  exact ⟨.str _, .str _, .str _, nofun⟩

theorem isJson_largeTotal : largeTotal.IsJson := by
  refine .obj (by decide) (List.forall_mem_singleton.mpr (.obj (by decide) ?_))
  exact List.forall_mem_singleton.mpr (.int (by decide))

/-- The page of a text is lost with an amount that it does not show; without the amount there is
one. -/
theorem largeTotal_unrendered : greetingOffer.IsJson ∧ largeTotal.IsJson ∧
    ∃ t c, Template.read? greetingOffer = .ok t ∧ RenderContext.read? largeTotal = .ok c ∧
      ¬ Succeeds (renderPage t c false) ∧ Succeeds (renderPage t {} false) := by
  obtain ⟨t, ht⟩ : Succeeds (Template.read? greetingOffer) := by decide +kernel
  obtain ⟨c, hc⟩ : Succeeds (RenderContext.read? largeTotal) := by decide +kernel
  have lost : ¬ Succeeds (renderedPage greetingOffer largeTotal) := by decide +kernel
  have kept : Succeeds (renderedPage greetingOffer (.obj [])) := by decide +kernel
  have empty : RenderContext.read? (.obj []) = .ok {} := rfl
  rw [renderedPage_eq ht hc] at lost
  rw [renderedPage_eq ht empty] at kept
  exact ⟨isJson_greetingOffer, isJson_largeTotal, t, c, ht, hc, lost, kept⟩

end QuotationPress
