import QuotationPress.Merge.Lookup
import QuotationPress.Proofs.Merge.Grammar
import QuotationPress.Proofs.Outcome

/-!
# What filling in does to a text

A `Cut` is a text in pieces, placeholders and the runs of characters between them; it is clear when
no further placeholder starts inside a run, and every text has a clear cut. Filling in keeps the
runs and puts the values in the place of the placeholders: `Lookup.merge_cut`.
-/

namespace QuotationPress.Merge

/-! ### Where placeholders start -/

/-- A placeholder starts at the front of the text. -/
def StartsMark (cs : List Char) : Prop := ∃ m : Mark, m.text <+: cs

/-- A placeholder starts where one is read. -/
theorem startsMark_iff {cs : List Char} : StartsMark cs ↔ (placeholder? cs).isSome = true := by
  constructor
  · rintro ⟨m, after, rfl⟩
    rw [placeholder?_append]
    rfl
  · intro found
    obtain ⟨⟨path, after⟩, found⟩ := Option.isSome_iff_exists.mp found
    obtain ⟨m, -, whole⟩ := placeholder?_eq_some_iff.mp found
    exact ⟨m, after, whole⟩

instance (cs : List Char) : Decidable (StartsMark cs) := decidable_of_iff _ startsMark_iff.symm

/-- No placeholder starts inside the run when this text follows it. -/
def ClearRun : List Char → List Char → Prop
  | [], _ => True
  | c :: run, following => ¬ StartsMark (c :: (run ++ following)) ∧ ClearRun run following

instance decidableClearRun : (run following : List Char) → Decidable (ClearRun run following)
  | [], _ => inferInstanceAs (Decidable True)
  | c :: run, following =>
    have := decidableClearRun run following
    inferInstanceAs (Decidable (¬ StartsMark (c :: (run ++ following)) ∧ ClearRun run following))

/-! ### Cuts -/

/-- A text in pieces: runs of characters with placeholders between them. -/
inductive Cut where
  | last (run : List Char)
  | mark (run : List Char) (m : Mark) (more : Cut)

namespace Cut

def text : Cut → List Char
  | last run => run
  | mark run m more => run ++ (m.text ++ more.text)

def marks : Cut → List Mark
  | last _ => []
  | mark _ m more => m :: more.marks

/-- The runs as they are, with values in the place of the placeholders. -/
def filled (value : String → String) : Cut → List Char
  | last run => run
  | mark run m more => run ++ ((value m.name).toList ++ more.filled value)

/-- Nowhere but at the placeholders of the cut does one start. -/
def Clear : Cut → Prop
  | last run => ClearRun run []
  | mark run m more => ClearRun run (m.text ++ more.text) ∧ more.Clear

instance decidableClear : (cut : Cut) → Decidable cut.Clear
  | last run => inferInstanceAs (Decidable (ClearRun run []))
  | mark run m more =>
    have := decidableClear more
    inferInstanceAs (Decidable (ClearRun run (m.text ++ more.text) ∧ more.Clear))

/-- The cut with one more character in front. -/
def push (c : Char) : Cut → Cut
  | last run => last (c :: run)
  | mark run m more => mark (c :: run) m more

theorem text_push (c : Char) (cut : Cut) : (cut.push c).text = c :: cut.text := by
  cases cut <;> rfl

theorem clear_push {c : Char} {cut : Cut} (bare : ¬ StartsMark (c :: cut.text))
    (clear : cut.Clear) :
    (cut.push c).Clear := by
  cases cut with
  | last run => exact ⟨by simpa [text] using bare, clear⟩
  | mark run m more => exact ⟨⟨bare, clear.1⟩, clear.2⟩

/-- Every text has a clear cut. -/
theorem exists_clear (cs : List Char) : ∃ cut : Cut, cut.Clear ∧ cut.text = cs := by
  fun_induction segments cs with
  | case1 => exact ⟨last [], trivial, rfl⟩
  -- a placeholder at the front begins a new piece; a character goes to the run in front of the rest
  | case2 c rest path after found ih =>
    obtain ⟨cut, clear, rfl⟩ := ih
    obtain ⟨m, -, whole⟩ := placeholder?_eq_some_iff.mp found
    exact ⟨mark [] m cut, ⟨trivial, clear⟩, whole⟩
  | case3 c rest none ih =>
    obtain ⟨cut, clear, rfl⟩ := ih
    refine ⟨cut.push c, clear_push ?_ clear, text_push c cut⟩
    rw [startsMark_iff, none]
    exact nofun

end Cut

/-! ### Filling in -/

/-- A placeholder at the front is one segment. -/
theorem segments_mark (m : Mark) (after : List Char) :
    segments (m.text ++ after) = .placeholder m.path :: segments after := by
  have found := placeholder?_append m after
  generalize m.text ++ after = cs at found ⊢
  cases cs with
  | nil => cases found
  | cons c rest =>
    rw [segments]
    split
    · next path after' found' =>
      obtain ⟨rfl, rfl⟩ := Prod.mk.inj (Option.some.inj (found'.symm.trans found))
      rfl
    · next none =>
      rw [found] at none
      cases none

theorem segments_char {c : Char} {rest : List Char} (bare : ¬ StartsMark (c :: rest)) :
    segments (c :: rest) = .char c :: segments rest := by
  rw [segments]
  split
  · next path after found =>
    rw [startsMark_iff, found] at bare
    exact absurd rfl bare
  · rfl

variable {resolve : String → Outcome String}

/-- A clear run is kept as it is. -/
theorem fillSegments_run {run following filled : List Char} (clear : ClearRun run following)
    (h : fillSegments resolve (segments following) = .ok filled) :
    fillSegments resolve (segments (run ++ following)) = .ok (run ++ filled) := by
  induction run with
  | nil => exact h
  | cons c run ih =>
    rw [List.cons_append, segments_char clear.1, fillSegments, ih clear.2]
    rfl

/-- A clear cut is filled in piece by piece. -/
theorem fillSegments_cut {cut : Cut} (clear : cut.Clear) {value : String → String}
    (resolves : ∀ m ∈ cut.marks, resolve m.name = .ok (value m.name)) :
    fillSegments resolve (segments cut.text) = .ok (cut.filled value) := by
  induction cut with
  | last run =>
    have kept := @fillSegments_run resolve run [] [] clear (by rw [segments]; rfl)
    simpa [Cut.text, Cut.filled] using kept
  | mark run m more ih =>
    obtain ⟨first, others⟩ := List.forall_mem_cons.mp resolves
    have rest := ih clear.2 others
    refine fillSegments_run clear.1 ?_
    have value_eq : resolve (String.ofList m.path) = .ok (value m.name) := first
    rw [segments_mark, fillSegments, value_eq, Outcome.ok_bind, rest]
    rfl

/-- A text is filled in by putting the value of every placeholder in its place. All other characters
stay, and the values are put in as they are. -/
theorem Lookup.merge_cut (l : Lookup) {cut : Cut} (clear : cut.Clear) {value : String → String}
    (resolves : ∀ m ∈ cut.marks, l.resolve m.name = .ok (value m.name)) :
    l.merge (.str (String.ofList cut.text)) = .ok (String.ofList (cut.filled value)) := by
  have filled := fillSegments_cut clear resolves
  show fill l.resolve (String.ofList cut.text) = _
  rw [fill, String.toList_ofList, filled]
  rfl

def clientMark : Mark where
  before := []
  path := "client.name".toList
  behind := []
  blankBefore := nofun
  isPath := by decide +kernel
  blankBehind := nofun

def companyMark : Mark where
  before := [' ']
  path := "company.name".toList
  behind := [' ', ' ']
  blankBefore := List.forall_mem_singleton.mpr Text.isBlank_space
  isPath := by decide +kernel
  blankBehind :=
    List.forall_mem_cons.mpr ⟨Text.isBlank_space, List.forall_mem_singleton.mpr Text.isBlank_space⟩

/-- Placeholders among braces that belong to none. -/
def bracedText : Cut :=
  .mark "\x7b".toList clientMark
    (.mark " \x7b\x7b 1 + 2 \x7d\x7d ".toList companyMark (.last "\x7d\x7d".toList))

/-- The name of the client is written as a placeholder itself. -/
def bracedContext : RenderContext where
  company := [("name", .str "ASP")]
  client := [("name", .str "\x7b\x7bcompany.name\x7d\x7d")]

def bracedLookup : Lookup where
  data := bracedContext.mapping
  symbol := "₹"
  table := [("company.name", "ASP"), ("client.name", "\x7b\x7bcompany.name\x7d\x7d"),
    ("customer.name", "\x7b\x7bcompany.name\x7d\x7d")]

def bracedValue (path : String) : String :=
  if path = "company.name" then "ASP" else "\x7b\x7bcompany.name\x7d\x7d"

theorem bracedText_merged : Lookup.of? "₹" bracedContext = .ok bracedLookup ∧ bracedText.Clear ∧
    (∀ m ∈ bracedText.marks, bracedLookup.resolve m.name = .ok (bracedValue m.name)) ∧
    bracedLookup.merge
        (.str ("\x7b\x7b\x7bclient.name\x7d\x7d \x7b\x7b 1 + 2 \x7d\x7d " ++
          "\x7b\x7b company.name  \x7d\x7d\x7d\x7d")) =
      .ok "\x7b\x7b\x7bcompany.name\x7d\x7d \x7b\x7b 1 + 2 \x7d\x7d ASP\x7d\x7d" := by
  have clear : bracedText.Clear := by decide +kernel
  have resolves : ∀ m ∈ bracedText.marks, bracedLookup.resolve m.name =
      .ok (bracedValue m.name) := by
    simp only [bracedText, Cut.marks, List.forall_mem_cons]
    exact ⟨rfl, rfl, nofun⟩
  have merged := bracedLookup.merge_cut clear resolves
  exact ⟨rfl, clear, resolves, merged⟩

end QuotationPress.Merge
