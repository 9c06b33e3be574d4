import QuotationPress.Page.Document

/-!
# What of a template its page depends on

`TemplateElement.drawn` is an element without all that the page does not show of it, and
`renderPage_congr` says that two templates with the same drawn elements, settings, branding and
palette have the same page.
-/

namespace QuotationPress

namespace TemplateElement

/-- An element without its name and its extra entries. The empty tag is as unknown as the word for
it. -/
def drawn (e : TemplateElement) : TemplateElement :=
  { e with id := "", type := if e.type = "" then "unknown" else e.type, extra := [] }

@[simp] theorem drawn_visible (e : TemplateElement) : e.drawn.visible = e.visible := rfl

/-- The empty tag and the word for the unknown kind are both of no kind. -/
theorem drawn_kind (e : TemplateElement) : e.drawn.kind = e.kind := by
  have unknown : ElementKind.ofTag? "unknown" = ElementKind.ofTag? "" := by decide
  unfold kind drawn
  dsimp only
  split
  · next empty => rw [empty, unknown]
  · rfl

/-- Both have the same class as well. -/
theorem drawn_classTag (e : TemplateElement) :
    ElementView.classTag e.drawn.type = ElementView.classTag e.type := by
  have unknown : ElementView.classTag "unknown" = ElementView.classTag "" := by decide
  unfold drawn
  dsimp only
  split
  · next empty => rw [empty, unknown]
  · rfl

end TemplateElement

/-! ### Elements -/

namespace ElementView

variable (e : TemplateElement) (l : Merge.Lookup) (branding : Fields)

theorem plainView_drawn : plainView e.drawn l = plainView e l := by
  unfold plainView
  rw [e.drawn_classTag]
  rfl

/-- Of the element itself only the style counts once its content has been read. -/
theorem ofContent_drawn (kind : ElementKind) (content : Content) :
    ofContent e.drawn kind content l branding = ofContent e kind content l branding := by
  cases content <;> rfl

theorem of_drawn : of e.drawn l branding = of e l branding := by
  have content (kind : ElementKind) : contentOf? e.drawn kind = contentOf? e kind := rfl
  simp only [of, e.drawn_kind, content, ofContent_drawn, plainView_drawn]

end ElementView

theorem elementViews_drawn (l : Merge.Lookup) (branding : Fields) (es : List TemplateElement) :
    elementViews l branding (es.map TemplateElement.drawn) = elementViews l branding es := by
  have visible : TemplateElement.visible ∘ TemplateElement.drawn = TemplateElement.visible := rfl
  rw [elementViews, List.filter_map, visible, List.mapM_map, elementViews]
  simp only [Function.comp_def, ElementView.of_drawn]

/-! ### Pages -/

theorem Palette.of_congr {theme theme' : String} (h : ofTheme theme' = ofTheme theme)
    (branding : Fields) :
    of theme' branding = of theme branding := by
  simp only [of, h]

/-- A page depends on the elements as far as they are drawn, on settings and branding, and on the
palette of the theme. -/
theorem renderPage_congr {t t' : Template}
    (elements : t'.elements.map TemplateElement.drawn = t.elements.map TemplateElement.drawn)
    (settings : t'.settings = t.settings) (branding : t'.branding = t.branding)
    (palette : Palette.ofTheme t'.theme = Palette.ofTheme t.theme) (c : RenderContext)
    (preview : Bool) :
    renderPage t' c preview = renderPage t c preview := by
  have views (l : Merge.Lookup) :
      elementViews l t.branding t'.elements = elementViews l t.branding t.elements := by
    rw [← elementViews_drawn, elements, elementViews_drawn]
  simp only [renderPage, pageOf, themeCss, settings, branding, views, Palette.of_congr palette]

end QuotationPress
