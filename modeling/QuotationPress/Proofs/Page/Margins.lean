import QuotationPress.Page.ThemeSheet
import QuotationPress.Proofs.Pdf.OptionLayers
import QuotationPress.Proofs.Value.Openings

/-!
# Margins on the screen and in print

The style sheet and the options of a PDF file each fill in the sides that the settings leave open,
over standards of their own. `screenSide` and `printSide` are the two ways over any standard, so
that a side takes the standard when it reads like the standard whichever that is. In print a side
does so when it is missing, null or the empty text, on the screen when it is missing only.
-/

namespace QuotationPress

/-! ### Sides -/

/-- Every length is written with a text, but for the empty text itself. -/
theorem InlineStyle.length_ne_empty {v : Value} {s : String} (h : length v = .ok s)
    (given : v ≠ .str "") : s ≠ "" := by
  unfold length at h
  split at h
  · dsimp only at h
    split at h
    · obtain rfl := Except.ok.inj h
      simp
    · cases h
  · obtain rfl := Except.ok.inj h
    simp
  · exact Value.text_ne_empty h given

/-- The sides of a page, from the top clockwise. -/
def pageSides : List String := ["top", "right", "bottom", "left"]

/-- A side in the style sheet, for the entry that is given. -/
def screenSide (standard : Value) (given : Option Value) : Outcome String :=
  InlineStyle.length (given.getD standard)

/-- A side in the options of a PDF file, for the entry that is given. -/
def printSide (standard : String) (given : Option Value) : Checked String :=
  let v := given.getD .null
  if v.isBlankField then .good standard
  else (PdfOptions.written v.text).map fun s => if PdfOptions.isNumber v then s ++ "px" else s

/-- The style sheet has the standard there, whatever the standard is. -/
def StandardOnScreen (given : Option Value) : Prop :=
  ∀ standard, screenSide standard given = InlineStyle.length standard

/-- The options have the standard there, whatever the standard is. -/
def StandardInPrint (given : Option Value) : Prop :=
  ∀ standard, printSide standard given = .good standard

section Sides

variable {settings fs options : Fields} {given : Option Value} {o : PdfOptions} {side : String}

theorem marginsCss_eq (object : (settings.get "margins").fields? = some fs) :
    marginsCss settings =
      Value.joinedBy " " <$> pageSides.mapM fun side =>
        screenSide defaultMargin (fs.get? side) := by
  rw [marginsCss, object]
  rfl

/-- Only the empty text is written as nothing on the screen. -/
theorem screenSide_eq_empty : screenSide defaultMargin given = .ok "" ↔ given = some (.str "") := by
  constructor
  · intro empty
    by_contra filled
    have other : given.getD defaultMargin ≠ .str "" := by
      cases given with
      | none => exact nofun
      | some v => simpa using filled
    exact InlineStyle.length_ne_empty empty other rfl
  · rintro rfl
    rfl

/-- In print no side is written as nothing. -/
theorem printSide_ne_empty {standard text : String} (nonempty : standard ≠ "")
    (h : printSide standard given = .good text) : text ≠ "" := by
  unfold printSide at h
  dsimp only at h
  split at h
  · exact Checked.good.inj h ▸ nonempty
  · next filled =>
    obtain ⟨s, written, h⟩ := Checked.map_eq_good.mp h
    have told : (given.getD .null).text = .ok s := by
      revert written
      cases (given.getD .null).text with
      | ok t => exact fun written => congrArg _ (Checked.good.inj written)
      | error f => exact nofun
    have some : s ≠ "" := Value.text_ne_empty told fun empty => filled (empty ▸ rfl)
    subst h
    split
    · simp
    · exact some

/-- The options that are read have every side. -/
theorem printSide_of_read (margins : marginsOf options = fs)
    (read : PdfOptions.read? (.obj options) = .ok o) (hside : side ∈ pageSides) :
    ∃ text, printSide "20mm" (fs.get? side) = .good text ∧
      o.margins.fields.get? side = some (.str text) := by
  have fields : PdfOptions.ofFields options = .good o := Checked.outcome_eq_ok_iff.mp read
  have kept := PdfOptions.optional_margins.mp (PdfOptions.ofFields_eq_good.mp fields).2
  rw [margins] at kept
  -- the readers of the options take each side over its standard
  have whole (name : String) (get : Margins → String) :
      RecordField.meaning ⟨name, "20mm", PdfOptions.readSide, get⟩ (fs.get? name) =
        printSide "20mm" (fs.get? name) := by
    cases fs.get? name <;> rfl
  simp only [PdfOptions.sides, List.forall_mem_cons, whole] at kept
  obtain ⟨top, right, bottom, left, -⟩ := kept
  simp only [pageSides, List.mem_cons, List.not_mem_nil, or_false] at hside
  obtain rfl | rfl | rfl | rfl := hside
  · exact ⟨_, top, rfl⟩
  · exact ⟨_, right, rfl⟩
  · exact ⟨_, bottom, rfl⟩
  · exact ⟨_, left, rfl⟩

/-- Two standards are told apart by any entry that is there. -/
theorem standardOnScreen_iff : StandardOnScreen given ↔ given = none := by
  constructor
  · intro standard
    cases given with
    | none => rfl
    | some v =>
      -- the entry reads the same under both
      have same : InlineStyle.length (.str "a") = InlineStyle.length (.str "b") :=
        (standard (.str "a")).symm.trans (standard (.str "b"))
      exact absurd (Except.ok.inj same) (by decide)
  · rintro rfl standard
    rfl

/-- In print an entry that is null or empty takes the standard as well. -/
theorem standardInPrint_iff :
    StandardInPrint given ↔ given = none ∨ given = some .null ∨ given = some (.str "") := by
  have blank : (given.getD .null).isBlankField ↔
      given = none ∨ given = some .null ∨ given = some (.str "") := by
    cases given with
    | none => simp [Value.isBlankField]
    | some v => cases v <;> simp [Value.isBlankField]
  rw [← blank]
  constructor
  · intro standard
    by_contra filled
    -- a filled entry would read the same under two standards
    have same :=
      (standard "a").symm.trans ((if_neg filled).trans ((if_neg filled).symm.trans (standard "b")))
    exact absurd (Checked.good.inj same) (by decide)
  · exact fun blank standard => if_pos blank

/-- The two ways part at null and at the empty text, and nowhere else. -/
theorem standard_agrees_iff :
    (StandardOnScreen given ↔ StandardInPrint given) ↔
      given ≠ some .null ∧ given ≠ some (.str "") := by
  rw [standardOnScreen_iff, standardInPrint_iff]
  cases given <;> simp

/-- The style sheet and the options take the standard of a side alike exactly if the side is neither
null nor the empty text. Such a side the style sheet writes as it writes any value, so that the
padding has the word for null there, or nothing; in print every side has a text. -/
theorem margins_standard (object : (settings.get "margins").fields? = some fs) :
    (marginsCss settings =
      Value.joinedBy " " <$> pageSides.mapM fun side => screenSide defaultMargin (fs.get? side)) ∧
    (∀ (options : Fields) (o : PdfOptions), options.get "margins" = settings.get "margins" →
      PdfOptions.read? (.obj options) = .ok o → ∀ side ∈ pageSides,
        ∃ text, printSide "20mm" (fs.get? side) = .good text ∧ text ≠ "" ∧
          o.margins.fields.get? side = some (.str text)) ∧
    ∀ side,
      (StandardOnScreen (fs.get? side) ↔ fs.get? side = none) ∧
      (StandardInPrint (fs.get? side) ↔
        fs.get? side = none ∨ fs.get? side = some .null ∨ fs.get? side = some (.str "")) ∧
      ((StandardOnScreen (fs.get? side) ↔ StandardInPrint (fs.get? side)) ↔
        fs.get? side ≠ some .null ∧ fs.get? side ≠ some (.str "")) ∧
      (fs.get? side = some .null → screenSide defaultMargin (fs.get? side) = .ok "None") ∧
      (screenSide defaultMargin (fs.get? side) = .ok "" ↔ fs.get? side = some (.str "")) := by
  refine ⟨marginsCss_eq object, fun options o same read side hside => ?_, fun side => ?_⟩
  · have margins : marginsOf options = fs := by rw [marginsOf, same, object, Option.getD_some]
    obtain ⟨text, told, kept⟩ := printSide_of_read margins read hside
    exact ⟨text, told, printSide_ne_empty (by decide) told, kept⟩
  · refine ⟨standardOnScreen_iff, standardInPrint_iff, standard_agrees_iff, ?_, screenSide_eq_empty⟩
    intro null
    rw [null]
    rfl

end Sides

/-- Settings with a side of each kind: a number, the empty text, a length, and none. -/
def unevenMargins : Fields :=
  [("margins", .obj [("top", .int 12), ("right", .str ""), ("bottom", .str "1cm")])]

theorem unevenMargins_standard : marginsCss unevenMargins = .ok "12px  1cm 20px" ∧
    ∃ o, PdfOptions.read? (.obj unevenMargins) = .ok o ∧
      o.margins.fields.get? "top" = some (.str "12px") ∧
      o.margins.fields.get? "right" = some (.str "20mm") := by
  have object : (unevenMargins.get "margins").fields? =
      some [("top", .int 12), ("right", .str ""), ("bottom", .str "1cm")] := rfl
  obtain ⟨o, read⟩ : Outcome.Succeeds (PdfOptions.read? (.obj unevenMargins)) := by decide +kernel
  obtain ⟨css, sides, -⟩ := margins_standard object
  obtain ⟨top, htop, -, topKept⟩ := sides _ o rfl read "top" (by decide)
  obtain ⟨right, hright, -, rightKept⟩ := sides _ o rfl read "right" (by decide)
  have topText : "12px" = top := Checked.good.inj htop
  have rightText : "20mm" = right := Checked.good.inj hright
  refine ⟨css.trans (by decide +kernel), o, read, ?_, ?_⟩
  · rw [topText, topKept]
  · rw [rightText, rightKept]

/-- Null at the top: the options take their standard, the style sheet the word for null. -/
theorem nullTop_apart :
    ¬ ∀ (settings fs : Fields) (side : String), (settings.get "margins").fields? = some fs →
    side ∈ pageSides → (StandardOnScreen (fs.get? side) ↔ StandardInPrint (fs.get? side)) := by
  intro always
  have alike := always [("margins", .obj [("top", .null)])] _ "top" rfl (by decide)
  exact (standard_agrees_iff.mp alike).1 rfl

end QuotationPress
