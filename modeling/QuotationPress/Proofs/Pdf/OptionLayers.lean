import QuotationPress.Pdf.Layers
import QuotationPress.Proofs.Json.Reading
import QuotationPress.Proofs.Validation.Overlay

/-!
# Which layer of options counts

Layers are laid over each other key by key, so that the two spellings of a field keep two ledgers,
and the one in camel case is looked at first when the options are read: `Outspelled` says that an
earlier layer counts for that reason. The sides of the margins have one spelling each.
`readLayeredOptions_fields` gives every field and every side from the layers and the settings of the
template.
-/

namespace QuotationPress

/-! ### The last layer that says something -/

section LastSaid

variable {ask : Fields → Option Value} {layers : List Fields} {l : Fields} {key name : String}

/-- What the last of the layers says that says anything. -/
def lastSaid? (ask : Fields → Option Value) (layers : List Fields) : Option Value :=
  layers.reverse.findSome? ask

/-- The last value that layers have under a key. -/
def lastUnder? (layers : List Fields) (key : String) : Option Value := lastSaid? (·.get? key) layers

/-- The entry of a field in the last layer that names it, in one spelling or the other. -/
def lastNamed? (layers : List Fields) (name : String) : Option Value :=
  lastSaid? (Spelling.camel.find? · name) layers

/-- What one more layer says hides what the ones before it say. -/
theorem lastSaid?_concat (ask : Fields → Option Value) (layers : List Fields) (l : Fields) :
    lastSaid? ask (layers ++ [l]) = (ask l).or (lastSaid? ask layers) := by
  rw [lastSaid?, List.reverse_concat, List.findSome?_cons]
  cases ask l <;> rfl

theorem isSome_lastSaid? : (lastSaid? ask layers).isSome ↔ ∃ l ∈ layers, (ask l).isSome := by
  simp [lastSaid?, List.findSome?_isSome_iff]

/-- The last layer that names the field does so in the plain spelling only, and an earlier one in
camel case. -/
def Outspelled (layers : List Fields) (name : String) : Prop :=
  ∃ before l behind, layers = before ++ l :: behind ∧ (∀ m ∈ behind, ¬ m.Names name) ∧
    ∃ m ∈ before, Fields.Shadowed m l name

/-- A layer that does not name the field leaves it outspelled. -/
theorem Outspelled.concat (h : Outspelled layers name) (unnamed : ¬ l.Names name) :
    Outspelled (layers ++ [l]) name := by
  obtain ⟨before, top, behind, rfl, later, shadowed⟩ := h
  refine ⟨before, top, behind ++ [l], by simp, ?_, shadowed⟩
  intro m hm
  rcases List.mem_append.mp hm with hm | hm
  · exact later m hm
  · rwa [List.mem_singleton.mp hm]

/-- Where no layer is outspelled, the two ledgers together give what the last layer says. -/
theorem lastNamed?_eq (free : ¬ Outspelled layers name) :
    lastNamed? layers name = (lastUnder? layers (camelCase name)).or (lastUnder? layers name) := by
  induction layers using List.reverseRecOn with
  | nil => rfl
  | append_singleton layers l ih =>
    simp only [lastNamed?, lastUnder?, lastSaid?_concat, Spelling.find?] at ih ⊢
    -- the last layer names the field in camel case, in the plain spelling only, or not at all
    rcases Option.eq_none_or_eq_some (l.get? (camelCase name)) with plain | ⟨v, camel⟩
    · rcases Option.eq_none_or_eq_some (l.get? name) with absent | ⟨w, given⟩
      · have unnamed : ¬ l.Names name := by simp [Fields.Names, Spelling.find?, plain, absent]
        simp only [plain, absent, Option.none_or]
        exact ih fun h => free (h.concat unnamed)
      · have named : l.Names name := by simp [Fields.Names, Spelling.find?, plain, given]
        -- an earlier layer with the field in camel case would outspell the last one
        have nowhere : lastSaid? (·.get? (camelCase name)) layers = none := by
          rw [← Option.not_isSome_iff_eq_none, isSome_lastSaid?]
          rintro ⟨m, hm, camel⟩
          exact free ⟨layers, l, [], rfl, List.forall_mem_nil _, m, hm, plain, named, camel⟩
        simp [plain, given, nowhere]
    · simp [camel]

/-- Where a field is outspelled, both ledgers hold something for it. -/
theorem Outspelled.said (h : Outspelled layers name) :
    (lastUnder? layers (camelCase name)).isSome ∧ (lastNamed? layers name).isSome := by
  obtain ⟨before, l, behind, rfl, -, m, hm, -, named, camel⟩ := h
  exact ⟨isSome_lastSaid?.mpr ⟨m, List.mem_append_left _ hm, camel⟩,
    isSome_lastSaid?.mpr ⟨l, by simp, named⟩⟩

end LastSaid

/-! ### Layers of options -/

/-- What the entries of an object under `margins` are. -/
def marginsOf (l : Fields) : Fields := ((l.get "margins").fields?).getD []

/-- A layer has each key once, and so have its margins, which are an object if they are given. -/
structure IsLayer (l : Fields) : Prop where
  distinct : (l.map Prod.fst).Nodup
  margins : (l.get? "margins").all Value.isObject
  sides : ((marginsOf l).map Prod.fst).Nodup

instance (l : Fields) : Decidable (IsLayer l) :=
  decidable_of_iff (_ ∧ _ ∧ _) ⟨fun ⟨distinct, margins, sides⟩ => ⟨distinct, margins, sides⟩,
    fun ⟨distinct, margins, sides⟩ => ⟨distinct, margins, sides⟩⟩

section Layers

variable {lower upper settings : Fields} {layers : List Fields} {key side : String}

/-- Outside the margins, an entry of the upper layer hides that of the lower one. -/
theorem get?_overlayLayer (distinct : (upper.map Prod.fst).Nodup) (other : key ≠ "margins") :
    (overlayLayer lower upper).get? key = (upper.get? key).or (lower.get? key) := by
  unfold overlayLayer
  split
  · rw [Fields.get?_overlay (Fields.nodup_put distinct ..), Fields.get?_put_of_ne other]
  · exact Fields.get?_overlay distinct key

theorem marginsOf_of_get? {l : Fields} {given : Option Value} (h : l.get? "margins" = given) :
    marginsOf l = (given.bind Value.fields?).getD [] := by
  rw [marginsOf, Fields.get, h]
  cases given <;> rfl

/-- Margins are laid over margins side by side. -/
theorem get?_marginsOf_overlayLayer (h : IsLayer upper) (side : String) :
    (marginsOf (overlayLayer lower upper)).get? side =
      ((marginsOf upper).get? side).or ((marginsOf lower).get? side) := by
  unfold overlayLayer
  split
  · next below above hbelow habove =>
    have hlower : marginsOf lower = below := by rw [marginsOf, hbelow, Option.getD_some]
    have hupper : marginsOf upper = above := by rw [marginsOf, habove, Option.getD_some]
    have joined : (Fields.overlay lower
        (upper.put "margins" (.obj (Fields.overlay below above)))).get? "margins" =
          some (.obj (Fields.overlay below above)) := by
      rw [Fields.get?_overlay (Fields.nodup_put h.distinct ..), Fields.get?_put_self,
        Option.some_or]
    rw [marginsOf_of_get? joined, hlower, hupper]
    exact Fields.get?_overlay (hupper ▸ h.sides) side
  · next apart =>
    have entry : marginsOf (Fields.overlay lower upper) = _ :=
      marginsOf_of_get? (Fields.get?_overlay h.distinct "margins")
    rcases Option.eq_none_or_eq_some (upper.get? "margins") with absent | ⟨v, given⟩
    · rw [entry, absent, Option.none_or, ← marginsOf_of_get? rfl, marginsOf_of_get? absent]
      rfl
    · -- the lower layer has no margins, as the upper ones would have been joined to them
      have object := h.margins
      rw [given] at object
      obtain ⟨above, object⟩ := Option.isSome_iff_exists.mp object
      have nothing : (lower.get "margins").fields? = none := by
        refine Option.eq_none_iff_forall_ne_some.mpr fun below both => ?_
        refine apart below above both ?_
        rw [Fields.get, given]
        exact object
      have bare : marginsOf lower = [] := by rw [marginsOf, nothing, Option.getD_none]
      rw [entry, given, Option.some_or, ← given, ← marginsOf_of_get? rfl, bare, Fields.get?_nil,
        Option.or_none]

/-- Outside the margins, the last layer with an entry under the key counts, and the settings come
last. -/
theorem get?_layeredOptions (each : ∀ l ∈ layers, IsLayer l) (other : key ≠ "margins") :
    (layeredOptions settings layers).get? key =
      (lastUnder? layers key).or ((pageLayer settings).get? key) := by
  induction layers using List.reverseRecOn with
  | nil => rfl
  | append_singleton layers l ih =>
    -- the last layer is laid over all that the earlier ones amount to
    obtain ⟨earlier, last⟩ := List.forall_mem_append.mp each
    rw [layeredOptions, List.foldl_concat,
      get?_overlayLayer (List.forall_mem_singleton.mp last).distinct other, lastUnder?,
      lastSaid?_concat, Option.or_assoc, ← lastUnder?, ← ih earlier, layeredOptions]

/-- Of each side of the margins the last layer that names it counts, and the settings come last. -/
theorem get?_marginsOf_layeredOptions (each : ∀ l ∈ layers, IsLayer l) (side : String) :
    (marginsOf (layeredOptions settings layers)).get? side =
      (lastUnder? (layers.map marginsOf) side).or ((marginsOf (pageLayer settings)).get? side) := by
  induction layers using List.reverseRecOn with
  | nil => rfl
  | append_singleton layers l ih =>
    obtain ⟨earlier, last⟩ := List.forall_mem_append.mp each
    rw [layeredOptions, List.foldl_concat,
      get?_marginsOf_overlayLayer (List.forall_mem_singleton.mp last), List.map_append,
      List.map_singleton, lastUnder?, lastSaid?_concat, Option.or_assoc, ← lastUnder?, ← ih earlier,
      layeredOptions]

/-! ### Settings of the template -/

/-- What the settings of a template say about a field of the options. -/
def pageSetting? (settings : Fields) (name : String) : Option Value :=
  if name = "format" then settings.get? "pageSize"
  else if name = "orientation" then settings.get? "orientation"
  else none

/-- Settings that do not count as given are left out. -/
theorem get?_pageLayer (settings : Fields) (key : String) : (pageLayer settings).get? key =
    if key = "margins" then (settings.get? "margins").filter Value.isObject
    else (pageSetting? settings key).filter Value.isTruthy := by
  -- each setting comes in as a piece with one entry at most
  have entry (name target : String) (p : Value → Bool) (nothing : p .null = false) :
      Fields.get? (if p (settings.get name) then [(target, settings.get name)] else []) key =
        if key = target then (settings.get? name).filter p else none := by
    rw [Fields.get]
    cases settings.get? name with
    | none => simp [nothing]
    | some v => cases h : p v <;> simp [h, Fields.get?_cons, Option.filter_some]
  unfold pageLayer
  rw [Fields.get?, List.lookup_append, List.lookup_append, ← Fields.get?, ← Fields.get?,
    ← Fields.get?, entry "pageSize" "format" _ rfl, entry "orientation" "orientation" _ rfl,
    entry "margins" "margins" _ rfl, pageSetting?]
  split_ifs <;> simp_all

/-- The margins of the settings count just as they are. -/
theorem marginsOf_pageLayer (settings : Fields) :
    marginsOf (pageLayer settings) = marginsOf settings := by
  rw [marginsOf, marginsOf, Fields.get, Fields.get, get?_pageLayer, if_pos rfl]
  cases settings.get? "margins" with
  | none => rfl
  | some v =>
    cases object : v.isObject with
    | true => rw [Option.filter_some, if_pos object]
    | false =>
      have nothing : v.fields? = none := by simpa [Value.isObject] using object
      rw [Option.filter_some, if_neg (by simp [object]), Option.getD_some, nothing]
      rfl

end Layers

/-! ### Fields of the options -/

namespace PdfOptions

/-- The margin that an entry gives. -/
def readSide (v : Value) : Checked String :=
  if v.isBlankField then .good "20mm"
  else (written v.text).map fun s => if isNumber v then s ++ "px" else s

/-- The sides of the margins. -/
def sides : List (RecordField Margins) :=
  [⟨"top", "20mm", readSide, Margins.top⟩, ⟨"right", "20mm", readSide, Margins.right⟩,
    ⟨"bottom", "20mm", readSide, Margins.bottom⟩, ⟨"left", "20mm", readSide, Margins.left⟩]

/-- The fields of the options but for the margins. -/
def recordFields : List (RecordField PdfOptions) :=
  [⟨"format", .a4, checkFormat, format⟩, ⟨"orientation", .portrait, checkOrientation, orientation⟩,
    ⟨"quality", .standard, checkQuality, quality⟩,
    ⟨"display_header_footer", false, Lenient.flag, displayHeaderFooter⟩,
    ⟨"print_background", true, Lenient.flag, printBackground⟩,
    ⟨"header_template", "", Lenient.text, headerTemplate⟩,
    ⟨"footer_template", "", Lenient.text, footerTemplate⟩,
    ⟨"timeout_seconds", none, Lenient.optional Lenient.real, timeoutSeconds⟩]

open Checked RecordField

/-- Options are read exactly if each field holds what its entry means, and the margins theirs. -/
theorem ofFields_eq_good {fs : Fields} {o : PdfOptions} : ofFields fs = .good o ↔
    (∀ f ∈ recordFields, f.Holds fs o) ∧
      Checked.optional .camel fs "margins" {} checkMargins = .good o.margins := by
  rw [← value?_eq_some, ofFields]
  simp only [value?_seq, value?_map, Option.bind_assoc, Option.bind_some, Option.bind_eq_some_iff,
    value?_eq_some, recordFields, List.forall_mem_cons, holds_mk, List.not_mem_nil]
  grind

/-- What is no object has no sides. -/
theorem checkMargins_eq (v : Value) : checkMargins v = checkMargins (.obj (v.fields?.getD [])) := by
  unfold checkMargins
  cases v.fields? <;> rfl

/-- Margins are read exactly if each side holds what its entry means. -/
theorem checkMargins_obj {fs : Fields} {m : Margins} :
    checkMargins (.obj fs) = .good m ↔
      ∀ f ∈ sides, f.meaning (fs.get? f.name) = .good (f.get m) := by
  have side (name : String) (get : Margins → String) :
      meaning ⟨name, "20mm", readSide, get⟩ (fs.get? name) = checkSide fs name := by
    rw [checkSide, Fields.get]
    cases fs.get? name <;> rfl
  simp only [sides, List.forall_mem_cons, side, List.not_mem_nil, false_imp_iff, implies_true,
    and_true]
  constructor
  · intro h
    obtain ⟨top, htop, h⟩ := andThen_eq_good.mp h
    obtain ⟨right, hright, h⟩ := andThen_eq_good.mp h
    obtain ⟨bottom, hbottom, h⟩ := andThen_eq_good.mp h
    obtain ⟨left, hleft, rfl⟩ := map_eq_good.mp h
    exact ⟨htop, hright, hbottom, hleft⟩
  · rintro ⟨htop, hright, hbottom, hleft⟩
    simp only [checkMargins, Value.fields?, htop, hright, hbottom, hleft]
    rfl

/-- Missing margins are read as margins without a side. -/
theorem optional_margins {fs : Fields} {m : Margins} :
    Checked.optional .camel fs "margins" {} checkMargins = .good m ↔
      ∀ f ∈ sides, f.meaning ((marginsOf fs).get? f.name) = .good (f.get m) := by
  have single : camelCase "margins" = "margins" := by decide
  rw [← checkMargins_obj, marginsOf, ← checkMargins_eq, Checked.optional_eq_good, Spelling.find?,
    single, Option.or_self, Fields.get]
  cases fs.get? "margins" with
  | none => simp [checkMargins, Value.fields?]
  | some v => simp

/-- Where a blank entry means the fallback, it makes no difference to leave it out. -/
theorem meaning_filter {f : RecordField PdfOptions}
    (blank : ∀ v, v.isTruthy = false → f.read v = .good f.fallback) (given : Option Value) :
    f.meaning (given.filter Value.isTruthy) = f.meaning given := by
  cases given with
  | none => rfl
  | some v =>
    cases h : v.isTruthy with
    | true => rw [Option.filter_some, if_pos h]
    | false =>
      rw [Option.filter_some, if_neg (by simp [h])]
      exact (blank v h).symm

theorem textOr_of_blank {v : Value} (blank : v.isTruthy = false) (fallback : String) :
    textOr fallback v = .good fallback := by
  rw [textOr, Value.orElse, if_neg (by simp [blank])]
  rfl

/-- Settings that do not count as given say what the options say anyway. -/
theorem meaning_pageLayer {f : RecordField PdfOptions} (hf : f ∈ recordFields) (settings : Fields) :
    f.meaning ((pageLayer settings).get? f.name) = f.meaning (pageSetting? settings f.name) := by
  have other : ∀ f ∈ recordFields, f.name ≠ "margins" := by decide
  rw [get?_pageLayer, if_neg (other f hf)]
  rcases hf with _ | ⟨_, _ | ⟨_, hf⟩⟩
  · refine meaning_filter (fun v blank => ?_) _
    show checkFormat v = _
    rw [checkFormat, textOr_of_blank blank]
    rfl
  · refine meaning_filter (fun v blank => ?_) _
    show checkOrientation v = _
    rw [checkOrientation, textOr_of_blank blank]
    rfl
  · -- the settings say nothing about the other fields
    have unset : ∀ f ∈ recordFields.drop 2, f.name ≠ "format" ∧ f.name ≠ "orientation" := by decide
    rw [pageSetting?, if_neg (unset f hf).1, if_neg (unset f hf).2]
    rfl

/-- The entry that a field is read from: in camel case from the last layer that has one, else in the
plain spelling from the last layer that has one, else from the settings. -/
theorem find?_layeredOptions {f : RecordField PdfOptions} (hf : f ∈ recordFields)
    {settings : Fields} {layers : List Fields} (each : ∀ l ∈ layers, IsLayer l) :
    Spelling.camel.find? (layeredOptions settings layers) f.name =
      ((lastUnder? layers (camelCase f.name)).or (lastUnder? layers f.name)).or
        ((pageLayer settings).get? f.name) := by
  have spelled : ∀ f ∈ recordFields, f.name ≠ "margins" ∧ camelCase f.name ≠ "margins" ∧
      (camelCase f.name = f.name ∨ ∀ key ∈ [f.name, camelCase f.name], key ≠ "format" ∧
        key ≠ "orientation") := by
    decide
  obtain ⟨plain, camel, spelling⟩ := spelled f hf
  rw [Spelling.find?, get?_layeredOptions each plain, get?_layeredOptions each camel]
  -- a field of one word has one spelling; the others are no matter of the settings
  rcases spelling with single | other
  · rw [single, Option.or_self, Option.or_self]
  · have nothing : ∀ key ∈ [f.name, camelCase f.name], pageSetting? settings key = none := by
      intro key hkey
      rw [pageSetting?, if_neg (other key hkey).1, if_neg (other key hkey).2]
    rw [get?_pageLayer, get?_pageLayer, if_neg plain, if_neg camel, nothing _ (.head _),
      nothing _ (.tail _ (.head _))]
    simp

end PdfOptions

open PdfOptions

/-- Every field of layered options is read from the last layer that spells it in camel case, else
from the last one that spells it plain, else from the settings of the template. That is the last
layer that names the field exactly if none outspells it, or both say the same. Of each side of the
margins the last layer that names it counts. -/
theorem readLayeredOptions_fields {t : Template} {layers : List Fields} {o : PdfOptions}
    (each : ∀ l ∈ layers, IsLayer l) (read : readLayeredOptions t layers = .ok o) :
    (∀ f ∈ recordFields,
      f.meaning (((lastUnder? layers (camelCase f.name)).or (lastUnder? layers f.name)).or
        (pageSetting? t.settings f.name)) = .good (f.get o) ∧
      (f.meaning ((lastNamed? layers f.name).or (pageSetting? t.settings f.name)) =
        .good (f.get o) ↔
        (Outspelled layers f.name →
          f.meaning (lastNamed? layers f.name) =
            f.meaning (lastUnder? layers (camelCase f.name))))) ∧
    ∀ f ∈ sides,
      f.meaning
        ((lastUnder? (layers.map marginsOf) f.name).or ((marginsOf t.settings).get? f.name)) =
      .good (f.get o.margins) := by
  have fields : ofFields (layeredOptions t.settings layers) = .good o :=
    Checked.outcome_eq_ok_iff.mp read
  obtain ⟨holds, margins⟩ := ofFields_eq_good.mp fields
  refine ⟨fun f hf => ?_, fun f hf => ?_⟩
  · have value : f.meaning
        (((lastUnder? layers (camelCase f.name)).or (lastUnder? layers f.name)).or
          (pageSetting? t.settings f.name)) = .good (f.get o) := by
      rw [← holds f hf, find?_layeredOptions hf each]
      cases (lastUnder? layers (camelCase f.name)).or (lastUnder? layers f.name) with
      | some v => rfl
      | none => exact (meaning_pageLayer hf _).symm
    refine ⟨value, ?_⟩
    rw [← value]
    -- both sides look at the camel case if the field is outspelled, and else nothing tells them
    -- apart
    by_cases outspelled : Outspelled layers f.name
    · obtain ⟨camel, named⟩ := outspelled.said
      obtain ⟨v, hv⟩ := Option.isSome_iff_exists.mp camel
      obtain ⟨w, hw⟩ := Option.isSome_iff_exists.mp named
      simp [outspelled, hv, hw]
    · simp [outspelled, lastNamed?_eq outspelled]
  · rw [← optional_margins.mp margins f hf, get?_marginsOf_layeredOptions each, marginsOf_pageLayer]

/-- A template with a margin for two sides. -/
def narrowOffer : Template :=
  { settings := [("pageSize", .str "A5"), ("margins", .obj [("top", .int 12), ("left", .int 8)])] }

theorem narrowOffer_layered : ∃ o, readLayeredOptions narrowOffer
      [[("printBackground", .bool false), ("quality", .str "high")],
        [("margins", .obj [("top", .str "30mm")]), ("quality", .str "draft")]] = .ok o ∧
    o.format = .a5 ∧ o.quality = .draft ∧ o.printBackground = false ∧ o.margins.top = "30mm" ∧
      o.margins.left = "8px" := by
  obtain ⟨o, read⟩ : Outcome.Succeeds (readLayeredOptions narrowOffer
      [[("printBackground", .bool false), ("quality", .str "high")],
        [("margins", .obj [("top", .str "30mm")]), ("quality", .str "draft")]]) := by decide +kernel
  obtain ⟨fields, margins⟩ := readLayeredOptions_fields (by decide) read
  refine ⟨o, read, ?_, ?_, ?_, ?_, ?_⟩
  · exact Checked.good.inj ((fields _ (.head _)).1.symm.trans rfl)
  · exact Checked.good.inj ((fields _ (.tail _ (.tail _ (.head _)))).1.symm.trans rfl)
  · exact Checked.good.inj
      ((fields _ (.tail _ (.tail _ (.tail _ (.tail _ (.head _)))))).1.symm.trans rfl)
  · exact Checked.good.inj ((margins _ (.head _)).symm.trans rfl)
  · exact Checked.good.inj ((margins _ (.tail _ (.tail _ (.tail _ (.head _))))).symm.trans rfl)

/-- The first layer prints the background in camel case, so that the last one cannot turn it off in
the plain spelling. -/
theorem printedBackground_kept : ¬ ∀ (t : Template) (layers : List Fields) (o : PdfOptions),
    (∀ l ∈ layers, IsLayer l) → readLayeredOptions t layers = .ok o → ∀ f ∈ recordFields,
      f.meaning ((lastNamed? layers f.name).or (pageSetting? t.settings f.name)) =
        .good (f.get o) := by
  intro always
  have read : readLayeredOptions {}
      [[("printBackground", .bool true)], [("print_background", .bool false)]] = .ok {} := rfl
  -- the fifth field is the one that is outspelled
  have plain := always {} _ {} (by decide) read _ (.tail _ (.tail _ (.tail _ (.tail _ (.head _)))))
  exact absurd (Checked.good.inj plain) (by decide)

end QuotationPress
