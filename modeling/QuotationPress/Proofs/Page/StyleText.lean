import QuotationPress.Page.StyleSheet
import QuotationPress.Proofs.Page.MarkupText

/-!
# Texts of style sheets in which no tag starts

`Tagless s` says so of a text; a sheet is such a text if its selectors, properties and values are:
`tagless_sheet`.
-/

namespace QuotationPress

/-- A text in which no tag starts. -/
def Tagless (s : String) : Prop := '<' ∉ s.toList

instance (s : String) : Decidable (Tagless s) := inferInstanceAs (Decidable (_ ∉ _))

/-- Two texts without a tag make none together, since a tag starts with one character. -/
theorem Tagless.append {s t : String} (hs : Tagless s) (ht : Tagless t) : Tagless (s ++ t) := by
  simp [Tagless, String.toList_append, not_or.mpr ⟨hs, ht⟩]

theorem tagless_join {parts : List String} (h : ∀ s ∈ parts, Tagless s) :
    Tagless (String.join parts) := by
  induction parts with
  | nil => decide
  | cons s rest ih =>
    obtain ⟨first, others⟩ := List.forall_mem_cons.mp h
    rw [String.join_cons]
    exact first.append (ih others)

def StyleRule.Tagless (r : StyleRule) : Prop :=
  QuotationPress.Tagless r.selector ∧
    ∀ d ∈ r.declarations, QuotationPress.Tagless d.1 ∧ QuotationPress.Tagless d.2

instance (r : StyleRule) : Decidable r.Tagless := inferInstanceAs (Decidable (_ ∧ _))

/-- A rule is written with nothing that starts a tag but what it holds. -/
theorem StyleRule.Tagless.text {r : StyleRule} (h : r.Tagless) : QuotationPress.Tagless r.text := by
  have declarations : QuotationPress.Tagless
      (String.join (r.declarations.map fun d => " " ++ d.1 ++ ": " ++ d.2 ++ ";")) := by
    refine tagless_join fun s hs => ?_
    obtain ⟨d, hd, rfl⟩ := List.mem_map.mp hs
    obtain ⟨name, value⟩ := h.2 d hd
    exact .append (.append (.append (.append (by decide) name) (by decide)) value) (by decide)
  exact .append (.append (.append h.1 (by decide)) declarations) (by decide)

/-- So are the rules for a medium. -/
theorem tagless_media {medium : String} {rules : List StyleRule} (h : Tagless medium)
    (each : ∀ r ∈ rules, r.Tagless) : Tagless (StyleBlock.media medium rules).text := by
  refine .append (.append (.append (.append (by decide) h) (by decide)) ?_) (by decide)
  refine tagless_join fun s hs => ?_
  obtain ⟨r, hr, rfl⟩ := List.mem_map.mp hs
  exact .append (.append (by decide) (each r hr).text) (by decide)

theorem tagless_escape (s : String) : Tagless (Text.escape s) := by
  rw [Tagless, Text.escape, String.toList_ofList]
  exact fun h => (Text.plain_of_mem_escapeChars h).1.1 rfl

theorem tagless_sheet {s : StyleSheet} (h : ∀ b ∈ s, Tagless b.text) : Tagless s.text := by
  fun_induction StyleSheet.text s with
  | case1 => decide
  | case2 b => exact h b (List.mem_singleton_self b)
  | case3 b rest _ ih =>
    obtain ⟨first, others⟩ := List.forall_mem_cons.mp h
    exact .append (.append first (by decide)) (ih others)

end QuotationPress
