import QuotationPress.Proofs.Element.ContentFields

/-!
# Content with a configuration laid over it

`Content.parse?_config` gives every field of the outcome from the content and the configuration,
each read alone. A field that the configuration names is its own, unless it is spelled plain there
and in camel case in the content: then the content counts.
-/

namespace QuotationPress

theorem ElementKind.content_injective (k : ElementKind) : Function.Injective k.content := by
  intro a b same
  cases k <;> injection same

namespace Content

variable {kind : ElementKind} {content : Value} {config : Fields}

/-- The configuration is laid over the entries that the content stands for; an empty one changes
nothing. -/
theorem parse?_eq_ok {c : Content} : parse? kind content config = .ok c ↔ ∃ fs r,
    entries kind content = .good fs ∧ kind.readRecord (Fields.overlay fs config) = .good r ∧
      kind.content r = c := by
  unfold parse?
  split
  · next empty =>
    rw [List.isEmpty_iff.mp empty, ofChecked_eq_ok, check, Checked.andThen_eq_good]
    simp only [ofFields_eq, Checked.map_eq_good, exists_and_left]
    rfl
  · cases entries kind content with
    | good fs => simp [ofChecked_eq_ok, ofFields_eq, Checked.map_eq_good]
    | bad issues => simp

/-- An object without a configuration is parsed as its own record. -/
theorem parse?_obj {fs : Fields} {r : kind.Record} :
    parse? kind (.obj fs) [] = .ok (kind.content r) ↔ kind.readRecord fs = .good r := by
  rw [parse?_eq_ok]
  constructor
  · rintro ⟨gs, r', entered, good, same⟩
    obtain rfl := Checked.good.inj entered
    obtain rfl := kind.content_injective same
    exact good
  · intro good
    exact ⟨fs, r, rfl, good, rfl⟩

theorem succeeds_parse?_obj {fs : Fields} :
    Outcome.Succeeds (parse? kind (.obj fs) []) ↔ (kind.readRecord fs).IsGood := by
  constructor
  · rintro ⟨c, h⟩
    obtain ⟨gs, r, entered, good, -⟩ := parse?_eq_ok.mp h
    obtain rfl := Checked.good.inj entered
    exact ⟨r, good⟩
  · rintro ⟨r, good⟩
    exact ⟨kind.content r, parse?_obj.mpr good⟩

/-- Read with a configuration, every field is the configuration's if that names it in a spelling
that counts, and the content's if not. What the configuration names is taken from it exactly if the
plain spelling is not shadowed, or content and configuration say the same. -/
theorem parse?_config {own above : kind.Record} (distinct : (config.map Prod.fst).Nodup)
    (hown : parse? kind content [] = .ok (kind.content own))
    (habove : parse? kind (.obj config) [] = .ok (kind.content above)) :
    ∃ fs whole, entries kind content = .good fs ∧
      parse? kind content config = .ok (kind.content whole) ∧
      ∀ f ∈ kind.recordFields,
        (f.get whole =
          if config.Names f.name ∧ ¬ Fields.Shadowed fs config f.name then f.get above
          else f.get own) ∧
        (f.get whole = (if config.Names f.name then f.get above else f.get own) ↔
          (Fields.Shadowed fs config f.name → f.get own = f.get above)) := by
  obtain ⟨fs, r, entered, below, same⟩ := parse?_eq_ok.mp hown
  obtain rfl := kind.content_injective same
  obtain ⟨whole, hwhole, fields⟩ := kind.accounts.overlay distinct below (parse?_obj.mp habove)
  exact ⟨fs, whole, entered, parse?_eq_ok.mpr ⟨fs, whole, entered, hwhole, rfl⟩, fields⟩

/-- A title as content under a configuration in both spellings; and an object that names what its
configuration names, one field in the same spelling and one in camel case where the configuration
has the plain one. -/
theorem itemsTable_configured :
    (∃ whole : TableContent,
      parse? .itemsTable (.str "Items") [("show_header", .bool false),
        ("columnWidths", .list [.str "60%"])] =
        .ok (.table whole) ∧ whole.showHeader = false ∧ whole.title = some "Items") ∧
    ∃ whole : TableContent,
      parse? .itemsTable (.obj [("title", .str "Items"), ("alternateRows", .bool true)])
          [("title", .str "Goods"), ("alternate_rows", .bool false)] =
        .ok (.table whole) ∧ whole.title = some "Goods" ∧ whole.alternateRows = true := by
  constructor
  · have hown : parse? .itemsTable (.str "Items") [] =
        .ok (ElementKind.itemsTable.content { title := some "Items" }) := rfl
    have habove :
        parse? .itemsTable
            (.obj [("show_header", .bool false), ("columnWidths", .list [.str "60%"])]) [] =
          .ok (ElementKind.itemsTable.content
            { showHeader := false, columnWidths := [some "60%"] }) := rfl
    obtain ⟨fs, whole, entered, parsed, fields⟩ := parse?_config (by decide) hown habove
    obtain rfl := Checked.good.inj entered
    refine ⟨whole, parsed, ?_, ?_⟩
    · exact (fields _ (.tail _ (.tail _ (.tail _ (.head _))))).1.trans (if_pos (by decide))
    · exact (fields _ (.head _)).1.trans (if_neg (by decide))
  · have hown :
        parse? .itemsTable (.obj [("title", .str "Items"), ("alternateRows", .bool true)]) [] =
          .ok (ElementKind.itemsTable.content { title := some "Items", alternateRows := true }) :=
      rfl
    have habove :
        parse? .itemsTable (.obj [("title", .str "Goods"), ("alternate_rows", .bool false)]) [] =
          .ok (ElementKind.itemsTable.content { title := some "Goods", alternateRows := false }) :=
      rfl
    obtain ⟨fs, whole, entered, parsed, fields⟩ := parse?_config (by decide) hown habove
    obtain rfl := Checked.good.inj entered
    refine ⟨whole, parsed, ?_, ?_⟩
    · exact (fields _ (.head _)).1.trans (if_pos (by decide))
    · have shadowed := (fields _ (.tail _ (.tail _ (.tail _ (.tail _ (.tail _ (.head _))))))).1
      exact shadowed.trans (if_neg (by decide))

/-- The content shows the header in camel case, so that the configuration cannot hide it in the
plain spelling. -/
theorem shownHeader_kept :
    ¬ ∀ (kind : ElementKind) (content config : Fields) (own above whole : kind.Record),
    kind.isTable = true → (config.map Prod.fst).Nodup →
      parse? kind (.obj content) [] = .ok (kind.content own) →
      parse? kind (.obj config) [] = .ok (kind.content above) →
      parse? kind (.obj content) config = .ok (kind.content whole) →
      ∀ f ∈ kind.recordFields, config.Names f.name → f.get whole = f.get above := by
  intro always
  have hidden := always .table [("showHeader", .bool true)] [("show_header", .bool false)] {}
    { showHeader := false } {} rfl (by decide) rfl rfl rfl _
      (.tail _ (.tail _ (.tail _ (.head _)))) (by decide)
  exact absurd hidden (by decide)

end Content

end QuotationPress
