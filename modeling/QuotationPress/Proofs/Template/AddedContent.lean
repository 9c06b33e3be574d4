import QuotationPress.Proofs.Element.Configuration
import QuotationPress.Proofs.Json.Records
import QuotationPress.Template.Builder

/-!
# The content of a new element

What its author gives is laid over the default content of its kind, which is spelled in camel case
and has an entry for every field with two spellings (`ElementKind.default_covers`).
`Builder.add_content`: an entry of the author's counts exactly if its key is in camel case, as that
of a name of one word always is.
-/

namespace QuotationPress

/-! ### Default content -/

namespace Fields

variable {lower upper : Fields} {names : List String} {name : String}

/-- The entries of `lower` but for the fields, among some, that `upper` names. -/
def unnamed (names : List String) (lower upper : Fields) : Fields :=
  lower.filter fun e => ∀ name ∈ names, upper.Names name → e.1 ≠ name ∧ e.1 ≠ camelCase name

/-- The entries of `upper`, completed by `lower` for the fields that it does not name. -/
def completion (names : List String) (lower upper : Fields) : Fields :=
  overlay (unnamed names lower upper) upper

/-- What the author names is found as the author gives it. -/
theorem find?_completion (distinct : (upper.map Prod.fst).Nodup) (listed : name ∈ names)
    (named : upper.Names name) :
    Spelling.camel.find? (completion names lower upper) name = Spelling.camel.find? upper name := by
  have dropped {key : String} (spelled : key = name ∨ key = camelCase name) :
      (unnamed names lower upper).get? key = none := by
    rw [get?_eq_none]
    intro mem
    obtain ⟨e, he, rfl⟩ := List.mem_map.mp mem
    obtain ⟨other, otherCamel⟩ := of_decide_eq_true (List.mem_filter.mp he).2 name listed named
    exact spelled.elim other otherCamel
  simp only [completion, Spelling.find?, get?_overlay distinct, dropped (.inl rfl),
    dropped (.inr rfl), Option.or_none]

end Fields

namespace ElementKind

/-- The names of the fields of a kind. -/
def fieldNames (k : ElementKind) : List String := k.recordFields.map RecordField.name

/-- The default content of every kind can be read. -/
theorem default_isGood (k : ElementKind) : (k.readRecord (defaultContent (some k))).IsGood := by
  have found : (k.readRecord (defaultContent (some k))).value?.isSome = true := by
    cases k <;> decide +kernel
  obtain ⟨r, h⟩ := Option.isSome_iff_exists.mp found
  exact ⟨r, Checked.value?_eq_some.mp h⟩

/-- A field with two spellings has an entry in the default content, in camel case. -/
theorem default_covers (k : ElementKind) : ∀ f ∈ k.recordFields,
    camelCase f.name = f.name ∨ ((defaultContent (some k)).get? (camelCase f.name)).isSome := by
  cases k <;> decide +kernel

/-- What is laid over the default content is shadowed wherever it is not in camel case. -/
theorem shadowed_default {k : ElementKind} {f : RecordField k.Record} (hf : f ∈ k.recordFields)
    (c : Fields) :
    Fields.Shadowed (defaultContent (some k)) c f.name ↔
      c.Names f.name ∧ ¬ c.has (camelCase f.name) := by
  rw [Fields.has, Option.not_isSome_iff_eq_none]
  constructor
  · rintro ⟨plain, named, -⟩
    exact ⟨named, plain⟩
  · rintro ⟨named, plain⟩
    refine ⟨plain, named, (default_covers k f hf).resolve_left fun single => ?_⟩
    rw [Fields.Names, Spelling.find?, plain, ← single, plain] at named
    cases named

end ElementKind

/-! ### Adding an element -/

namespace Builder

variable {b b' : Builder} {a : Addition} {kind : ElementKind} {c : Fields}

/-- Other entries do not come between the content and the element. -/
theorem get?_content_describe (b : Builder) (k : Option ElementKind) (style : Fields)
    (plain : a.extra.get? "content" = none) :
    (b.describe k a style).get? "content" = some (startContent k a.content) := by
  have described : (Fields.overlay
      [("type", a.type), ("content", startContent k a.content),
        ("style", .obj (Fields.overlay (defaultStyle k b.template.theme) style)),
        ("visible", a.visible),
        ("config", a.config)] a.extra).get? "content" = some (startContent k a.content) := by
    rw [Fields.get?_overlay_of_absent plain]
    rfl
  unfold describe
  split
  · exact described
  · rw [Fields.get?_put_of_ne (by decide)]
    exact described
  · exact described

/-- One element is appended, the content of which is what it starts with. -/
theorem add_eq_ok (added : b.add a = .ok b') (known : ElementKind.ofValue? a.type = .ok (some kind))
    (plain : a.extra.get? "content" = none) : ∃ e, b'.template.elements =
      b.template.elements ++ [e] ∧
      e.content = decodedValue (startContent (some kind) a.content) := by
  rw [add, known, Outcome.ok_bind] at added
  obtain ⟨style, -, added⟩ := Outcome.bind_eq_ok.mp added
  obtain ⟨e, read, added⟩ := Outcome.bind_eq_ok.mp added
  refine ⟨e, congrArg (·.template.elements) (Except.ok.inj added).symm, ?_⟩
  obtain ⟨-, -, content, -⟩ := TemplateElement.reads_of_ofFields (Checked.outcome_eq_ok_iff.mp read)
  rw [Checked.optional_eq_good, Spelling.find?, get?_content_describe b _ _ plain] at content
  rcases content with ⟨v, given, same⟩ | ⟨absent, -⟩
  · rw [Option.some.inj given]
    exact (Checked.good.inj same).symm
  · cases absent

/-- Read as content of its kind, the content of a new element has what its author gives in camel
case, and the default for all other fields. What the author names counts exactly if it is in camel
case, or says what the default says. -/
theorem add_content (known : ElementKind.ofValue? a.type = .ok (some kind))
    (object : a.content = .obj c) (distinct : (c.map Prod.fst).Nodup)
    (plain : a.extra.get? "content" = none) (added : b.add a = .ok b')
    (fits : Outcome.Succeeds
      (Content.parse? kind
        (.obj (Fields.completion kind.fieldNames (defaultContent (some kind)) c)) [])) :
    ∃ (e : TemplateElement) (own given whole : kind.Record), b'.template.elements =
      b.template.elements ++ [e] ∧
      Content.parse? kind (.obj c) [] = .ok (kind.content own) ∧
      Content.parse? kind (.obj (defaultContent (some kind))) [] = .ok (kind.content given) ∧
      Content.parse? kind e.content [] = .ok (kind.content whole) ∧
      ∀ f ∈ kind.recordFields,
        (f.get whole = if c.has (camelCase f.name) then f.get own else f.get given) ∧
        (f.get whole = (if c.Names f.name then f.get own else f.get given) ↔
          (c.Names f.name → c.has (camelCase f.name) ∨ f.get given = f.get own)) := by
  obtain ⟨e, appended, content⟩ := add_eq_ok added known plain
  obtain ⟨given, hgiven⟩ := kind.default_isGood
  -- the fields of the author's own content are read in the completed one, or are not given
  obtain ⟨own, hown⟩ : (kind.readRecord c).IsGood := by
    refine (kind.accounts.isGood c).mpr fun f hf => ?_
    by_cases named : c.Names f.name
    · rw [← Fields.find?_completion distinct (List.mem_map_of_mem hf) named]
      exact (kind.accounts.isGood _).mp (Content.succeeds_parse?_obj.mp fits) f hf
    · rw [Option.not_isSome_iff_eq_none.mp named]
      exact Checked.isGood_good
  obtain ⟨whole, hwhole, fields⟩ := kind.accounts.overlay distinct hgiven hown
  rw [object] at content
  refine ⟨e, own, given, whole, appended, Content.parse?_obj.mpr hown,
    Content.parse?_obj.mpr hgiven,
    content ▸ Content.parse?_obj.mpr hwhole, fun f hf => ?_⟩
  -- the author's content laid over the default one
  obtain ⟨value, prevails⟩ := fields f hf
  have shadowed := ElementKind.shadowed_default hf c
  constructor
  · refine value.trans (if_congr ?_ rfl rfl)
    rw [shadowed, not_and_not_right]
    exact ⟨fun h => h.2 h.1, fun camel => ⟨.of_camel camel, fun _ => camel⟩⟩
  · rw [prevails, shadowed, and_imp]
    exact forall_congr' fun _ => Decidable.or_iff_not_imp_left.symm

/-- Terms with fields in both spellings. -/
def netTerms : Fields :=
  [("title", .str "Terms"), ("showTitle", .bool false), ("default_text", .str "Net 30")]

theorem netTerms_added : ∃ (b : Builder) (e : TemplateElement) (whole : TermsContent),
    empty.add { type := .str "terms", content := .obj netTerms } = .ok b ∧
      b.template.elements = [e] ∧
      Content.parse? .terms e.content [] = .ok (.terms whole) ∧ whole.title = "Terms" ∧
      whole.showTitle = false := by
  obtain ⟨b, added⟩ :
      Outcome.Succeeds (empty.add { type := .str "terms", content := .obj netTerms }) := by
    decide +kernel
  have known : ElementKind.ofValue? (.str "terms") = .ok (some .terms) := by rfl
  obtain ⟨e, own, given, whole, appended, hown, -, hwhole, fields⟩ :=
    add_content known rfl (by decide) rfl added (by decide +kernel)
  have parsed : Content.parse? .terms (.obj netTerms) [] =
      .ok (.terms { title := "Terms", showTitle := false, defaultText := "Net 30" }) := by rfl
  obtain rfl := Content.terms.inj (Except.ok.inj (hown.symm.trans parsed))
  refine ⟨b, e, whole, added, appended, hwhole, ?_, ?_⟩
  · exact (fields _ (.head _)).1.trans (if_pos (by decide))
  · exact (fields _ (.tail _ (.tail _ (.tail _ (.head _))))).1.trans (if_pos (by decide))

/-- A header is to go without the date, which is said in the plain spelling; the default shows it in
camel case. -/
theorem datelessHeader_dated : ¬ ∀ (b b' : Builder) (a : Addition) (kind : ElementKind) (c : Fields)
    (e : TemplateElement) (own whole : kind.Record), ElementKind.ofValue? a.type = .ok (some kind) →
      a.content = .obj c → (c.map Prod.fst).Nodup → a.extra = [] → b.add a = .ok b' →
      b'.template.elements = b.template.elements ++ [e] →
      Outcome.Succeeds
        (Content.parse? kind
          (.obj (Fields.completion kind.fieldNames (defaultContent (some kind)) c)) []) →
      Content.parse? kind (.obj c) [] = .ok (kind.content own) →
      Content.parse? kind e.content [] = .ok (kind.content whole) →
      ∀ f ∈ kind.recordFields, c.Names f.name → f.get whole = f.get own := by
  intro always
  obtain ⟨b, added⟩ : Outcome.Succeeds
      (empty.add { type := .str "header", content := .obj [("show_date", .bool false)] }) := by
    decide +kernel
  have known : ElementKind.ofValue? (.str "header") = .ok (some .header) := by rfl
  obtain ⟨e, appended, content⟩ := add_eq_ok added known rfl
  have parsed : Content.parse? .header e.content [] =
      .ok (ElementKind.header.content { showDate := true, showQuotationNumber := true }) := by
    rw [content]
    rfl
  have dated := always _ _ _ .header _ e { showDate := false } _ known rfl (by decide) rfl added
    appended (by decide +kernel) rfl parsed _ (.tail _ (.tail _ (.head _))) (by decide)
  exact absurd dated (by decide)

end Builder

end QuotationPress
