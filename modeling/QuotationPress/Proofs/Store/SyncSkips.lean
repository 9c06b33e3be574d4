import Mathlib.Data.List.ReduceOption
import Mathlib.Data.String.Basic
import QuotationPress.Proofs.Store.SyncAgain
import QuotationPress.Proofs.Value.Texts

/-!
# What a sync makes of the files of a directory

A file defines a template, or it is passed over, or it stops the whole sync: `TextFile.defines_iff`,
`TextFile.passedOver_iff` and `TextFile.breaks_iff`. `sync_skips` says that a sync is complete
exactly if no file stops it, and that files that are passed over make no difference.
-/

namespace QuotationPress

open Outcome (Succeeds)

/-- Elements, settings and branding are made of what JSON has a form for. -/
structure TemplateBody.Storable (b : TemplateBody) : Prop where
  elements : ∀ fs ∈ b.elements, (Value.obj fs).Storable
  settings : (Value.obj b.settings).Storable
  branding : (Value.obj b.branding).Storable

/-- A body can be written just if all that it holds has a form in JSON. -/
theorem TemplateBody.succeeds_stored_iff {b : TemplateBody} : Succeeds b.stored ↔ b.Storable := by
  have elements : Succeeds (elementsText b.elements) ↔
      ∀ fs ∈ b.elements, (Value.obj fs).Storable := by
    rw [elementsText, Value.succeeds_toJson_iff, Value.storable_list, List.forall_mem_map]
  have parts : Succeeds b.stored ↔
    Succeeds (elementsText b.elements) ∧ Succeeds (fieldsText b.settings) ∧
      Succeeds (fieldsText b.branding) :=
    Outcome.succeeds_bind_iff_and fun _ _ => Outcome.succeeds_bind_iff_and fun _ _ =>
      Outcome.succeeds_bind_iff_left fun _ => Outcome.succeeds_pure
  rw [parts, elements, fieldsText, fieldsText, Value.succeeds_toJson_iff, Value.succeeds_toJson_iff]
  exact ⟨fun ⟨h, h', h''⟩ => ⟨h, h', h''⟩, fun ⟨h, h', h''⟩ => ⟨h, h', h''⟩⟩

/-! ### One file -/

namespace TextFile

open Definition (entriesOf ofFile? ofValue?)

/-- The file holds a template. -/
inductive Defines (f : TextFile) : Definition → Prop
  | template {v : Value} {fs : Fields} {id : String} {d : TemplateDraft} {content : StoredContent}
      (read : Yaml.read f.text = .ok v) (entries : entriesOf f v = some fs)
      (named : (fs.get "id").text = .ok id)
      (fits : TemplateDraft.ofFields fs = .good d) (stored : d.body.stored = .ok content) :
      Defines f { id, content, isDefault := d.isDefault }

/-- The file is left out: its text is not well formed, it holds no object with a name, or one that
fits no template. -/
inductive PassedOver (f : TextFile) : Prop
  | malformed {flaw : TextFlaw} (read : Yaml.read f.text = .error (.unreadableFile flaw))
  | nameless {v : Value} (read : Yaml.read f.text = .ok v) (entries : entriesOf f v = none)
  | unfit {v : Value} {fs : Fields} {faults : List Issue} (read : Yaml.read f.text = .ok v)
      (entries : entriesOf f v = some fs) (short : (fs.get "id").Short)
      (unfit : TemplateDraft.ofFields fs = .bad faults)

/-- The file stops everything: a value in it cannot be read, though the text is well formed; its id
has no text; or it fits a template that holds what JSON has no form for. -/
inductive Breaks (f : TextFile) : Prop
  | unreadable {e : Failure} (read : Yaml.read f.text = .error e)
      (wellFormed : ∀ flaw, e ≠ .unreadableFile flaw)
  | unnamed {v : Value} {fs : Fields} (read : Yaml.read f.text = .ok v)
      (entries : entriesOf f v = some fs)
      (long : ¬ (fs.get "id").Short)
  | unstorable {v : Value} {fs : Fields} {d : TemplateDraft} (read : Yaml.read f.text = .ok v)
      (entries : entriesOf f v = some fs) (short : (fs.get "id").Short)
      (fits : TemplateDraft.ofFields fs = .good d)
      (strange : ¬ d.body.Storable)

variable {f : TextFile} {d : Definition}

theorem ofFile?_of_read {v : Value} (read : Yaml.read f.text = .ok v) :
    ofFile? f = ofValue? f v := by
  rw [ofFile?, read]

theorem Defines.ofFile?_eq (h : f.Defines d) : ofFile? f = .ok (some d) := by
  cases h with
  | template read entries named fits stored =>
    rw [ofFile?_of_read read, ofValue?, entries]
    simp only [named, fits, stored, Outcome.ok_bind]
    rfl

theorem PassedOver.ofFile?_eq (h : f.PassedOver) : ofFile? f = .ok none := by
  cases h with
  | malformed read => rw [ofFile?, read]
  | nameless read entries => rw [ofFile?_of_read read, ofValue?, entries]
  | unfit read entries short unfit =>
    obtain ⟨id, named⟩ := Value.succeeds_text_iff.mpr short
    rw [ofFile?_of_read read, ofValue?, entries]
    simp only [named, unfit, Outcome.ok_bind]
    rfl

theorem Breaks.not_succeeds (h : f.Breaks) : ¬ Succeeds (ofFile? f) := by
  cases h with
  | @unreadable e read wellFormed =>
    have failed : ofFile? f = .error e := by
      rw [ofFile?, read]
      cases e with
      | unreadableFile flaw => exact absurd rfl (wellFormed flaw)
      | _ => rfl
    rw [failed]
    exact Outcome.not_succeeds_error
  | unnamed read entries long =>
    rw [ofFile?_of_read read, ofValue?, entries]
    intro done
    exact long (Value.succeeds_text_iff.mp (Outcome.succeeds_bind_iff_forall.mp done).1)
  | unstorable read entries short fits strange =>
    obtain ⟨id, named⟩ := Value.succeeds_text_iff.mpr short
    rw [ofFile?_of_read read, ofValue?, entries]
    simp only [named, fits, Outcome.ok_bind]
    intro done
    exact strange (TemplateBody.succeeds_stored_iff.mp (Outcome.succeeds_bind_iff_forall.mp done).1)

/-- Every file does one of the three. -/
theorem defines_or_passedOver_or_breaks (f : TextFile) :
    (∃ d, f.Defines d) ∨ f.PassedOver ∨ f.Breaks := by
  cases read : Yaml.read f.text with
  | error e =>
    by_cases malformed : ∃ flaw, e = .unreadableFile flaw
    · obtain ⟨flaw, rfl⟩ := malformed
      exact .inr (.inl (.malformed read))
    · exact .inr (.inr (.unreadable read fun flaw same => malformed ⟨flaw, same⟩))
  | ok v =>
    cases entries : entriesOf f v with
    | none => exact .inr (.inl (.nameless read entries))
    | some fs =>
      by_cases short : (fs.get "id").Short
      · cases fits : TemplateDraft.ofFields fs with
        | bad faults => exact .inr (.inl (.unfit read entries short fits))
        | good d =>
          by_cases storable : d.body.Storable
          · obtain ⟨id, named⟩ := Value.succeeds_text_iff.mpr short
            obtain ⟨content, stored⟩ := TemplateBody.succeeds_stored_iff.mpr storable
            exact .inl ⟨_, .template read entries named fits stored⟩
          · exact .inr (.inr (.unstorable read entries short fits storable))
      · exact .inr (.inr (.unnamed read entries short))

/-- A file that defines a template is read as this template, and no other file is. -/
theorem defines_iff : f.Defines d ↔ ofFile? f = .ok (some d) := by
  refine ⟨Defines.ofFile?_eq, fun read => ?_⟩
  rcases f.defines_or_passedOver_or_breaks with ⟨e, defines⟩ | passed | breaks
  · have same := defines.ofFile?_eq.symm.trans read
    exact Option.some.inj (Except.ok.inj same) ▸ defines
  · cases passed.ofFile?_eq.symm.trans read
  · exact absurd ⟨_, read⟩ breaks.not_succeeds

/-- A file that is passed over is read as no template, and no other file is. -/
theorem passedOver_iff : f.PassedOver ↔ ofFile? f = .ok none := by
  refine ⟨PassedOver.ofFile?_eq, fun read => ?_⟩
  rcases f.defines_or_passedOver_or_breaks with ⟨e, defines⟩ | passed | breaks
  · cases defines.ofFile?_eq.symm.trans read
  · exact passed
  · exact absurd ⟨_, read⟩ breaks.not_succeeds

/-- The files that stop everything are those that are not read. -/
theorem breaks_iff : f.Breaks ↔ ¬ Succeeds (ofFile? f) := by
  refine ⟨Breaks.not_succeeds, fun fails => ?_⟩
  rcases f.defines_or_passedOver_or_breaks with ⟨e, defines⟩ | passed | breaks
  · exact absurd ⟨_, defines.ofFile?_eq⟩ fails
  · exact absurd ⟨_, passed.ofFile?_eq⟩ fails
  · exact breaks

/-! ### The order of files -/

theorem pathBefore_cons {a b : String} {as bs : List String} :
    pathBefore (a :: as) (b :: bs) = true ↔ a < b ∨ a = b ∧ pathBefore as bs = true := by
  rw [pathBefore]
  split
  · next same => simp [same]
  · next other => simp [other]

theorem pathBefore_trans (a b c : List String) (hab : pathBefore a b = true)
    (hbc : pathBefore b c = true) :
    pathBefore a c = true := by
  -- along the first path; where two parts agree the rest decides
  induction a generalizing b c with
  | nil => rfl
  | cons x a ih =>
    obtain - | ⟨y, b⟩ := b
    · cases hab
    obtain - | ⟨z, c⟩ := c
    · cases hbc
    rw [pathBefore_cons] at *
    rcases hab with hab | ⟨rfl, hab⟩
    · rcases hbc with hbc | ⟨rfl, -⟩
      · exact .inl (hab.trans hbc)
      · exact .inl hab
    · rcases hbc with hbc | ⟨rfl, hbc⟩
      · exact .inl hbc
      · exact .inr ⟨rfl, ih b c hab hbc⟩

theorem pathBefore_total (a b : List String) : (pathBefore a b || pathBefore b a) = true := by
  rw [Bool.or_eq_true]
  induction a generalizing b with
  | nil => exact .inl rfl
  | cons x a ih =>
    obtain - | ⟨y, b⟩ := b
    · exact .inr rfl
    rw [pathBefore_cons, pathBefore_cons]
    rcases lt_trichotomy x y with before | rfl | behind
    · exact .inl (.inl before)
    · exact (ih b).imp (fun h => .inr ⟨rfl, h⟩) fun h => .inr ⟨rfl, h⟩
    · exact .inr (.inl behind)

end TextFile

/-- What is taken from a list ends where the first member fails. -/
theorem takeWhile_append_eq {α : Type} {p : α → Bool} {before behind : List α}
    (front : ∀ x ∈ before, p x = true) (back : ∀ x ∈ behind, p x = false) :
    (before ++ behind).takeWhile p = before := by
  rw [List.takeWhile_append_of_pos front]
  cases behind with
  | nil => simp
  | cons x rest =>
    rw [List.takeWhile_cons_of_neg (by simp [back x List.mem_cons_self]), List.append_nil]

/-- Members of a list are sorted in the same way when others are left out. -/
theorem filter_mergeSort {α : Type} {le : α → α → Bool}
    (trans : ∀ a b c, le a b = true → le b c = true → le a c = true)
    (total : ∀ a b, (le a b || le b a) = true) (keep : α → Bool) (xs : List α) :
    (xs.mergeSort le).filter keep = (xs.filter keep).mergeSort le := by
  -- the first member is put behind those that it does not come before, wherever they are
  have place (a : α) (xs : List α) :
      ∃ before behind, (a :: xs).mergeSort le = before ++ a :: behind ∧
        xs.mergeSort le = before ++ behind ∧ (∀ x ∈ before, (!le a x) = true) ∧
        ∀ x ∈ behind, (!le a x) = false := by
    obtain ⟨before, behind, sorted, rest, first⟩ := List.mergeSort_cons trans total a xs
    have ordered := List.pairwise_mergeSort trans total (a :: xs)
    rw [sorted, List.pairwise_append, List.pairwise_cons] at ordered
    exact ⟨before, behind, sorted, rest, first, fun x hx => by rw [ordered.2.1.1 x hx]; rfl⟩
  -- the place of the first member in the sorted list is where its place in the sorted rest is
  induction xs with
  | nil => simp
  | cons a xs ih =>
    obtain ⟨before, behind, sorted, rest, front, back⟩ := place a xs
    by_cases kept : keep a = true
    · obtain ⟨before', behind', sorted', rest', front', back'⟩ := place a (xs.filter keep)
      have same : before.filter keep ++ behind.filter keep = before' ++ behind' := by
        rw [← List.filter_append, ← rest, ih, rest']
      -- both are what is taken from the front while the members come before the first one
      have first : before.filter keep = before' := by
        have frontKept : ∀ x ∈ before.filter keep, (!le a x) = true :=
          fun x hx => front x (List.mem_of_mem_filter hx)
        have backKept : ∀ x ∈ behind.filter keep, (!le a x) = false :=
          fun x hx => back x (List.mem_of_mem_filter hx)
        have cut := takeWhile_append_eq (p := fun x => !le a x) frontKept backKept
        have cut' := takeWhile_append_eq (p := fun x => !le a x) front' back'
        exact cut.symm.trans ((congrArg _ same).trans cut')
      subst first
      rw [List.filter_cons_of_pos kept, sorted, sorted', List.filter_append,
        List.filter_cons_of_pos kept, List.append_cancel_left same]
    · rw [List.filter_cons_of_neg kept, ← ih, sorted, rest, List.filter_append, List.filter_append,
        List.filter_cons_of_neg kept]

namespace Definition

open TextFile (Defines PassedOver Breaks)

variable {files : List TextFile}

/-- The data files of a directory in the order in which they are read. -/
def readingOrder (files : List TextFile) : List TextFile :=
  (files.filter TextFile.isDataFile).mergeSort fun a b => TextFile.pathBefore a.parts b.parts

theorem mem_readingOrder {f : TextFile} :
    f ∈ readingOrder files ↔ f ∈ files ∧ f.isDataFile = true :=
  List.mem_mergeSort.trans List.mem_filter

/-- Leaving files out does not change the order of the others. -/
theorem readingOrder_filter (keep : TextFile → Bool) :
    readingOrder (files.filter keep) = (readingOrder files).filter keep := by
  have sorted := @filter_mergeSort _ (fun a b : TextFile => TextFile.pathBefore a.parts b.parts)
    (fun _ _ _ => TextFile.pathBefore_trans _ _ _) (fun _ _ => TextFile.pathBefore_total _ _) keep
  rw [readingOrder, readingOrder, sorted, List.filter_filter, List.filter_filter]
  exact congrArg (List.mergeSort · _) (List.filter_congr fun f _ => Bool.and_comm _ _)

theorem ofFiles_eq : ofFiles files = List.reduceOption <$> (readingOrder files).mapM ofFile? := rfl

/-- A directory can be read if no file in it stops the reading. -/
theorem succeeds_ofFiles_iff :
    Succeeds (ofFiles files) ↔ ∀ f ∈ files, f.isDataFile = true → ¬ f.Breaks := by
  rw [ofFiles_eq, Outcome.succeeds_map, Outcome.succeeds_mapM]
  simp only [mem_readingOrder, and_imp, TextFile.breaks_iff, not_not]

/-- Files that are passed over add nothing to what is read. -/
theorem mapM_filter_of_passedOver {keep : TextFile → Bool}
    (others : ∀ f ∈ files, f.PassedOver ∨ keep f = true) :
    List.reduceOption <$> (files.filter keep).mapM ofFile? =
      List.reduceOption <$> files.mapM ofFile? := by
  induction files with
  | nil => rfl
  | cons f rest ih =>
    obtain ⟨first, others⟩ := List.forall_mem_cons.mp others
    have behind := ih others
    by_cases kept : keep f = true
    · rw [List.filter_cons_of_pos kept, List.mapM_cons, List.mapM_cons]
      cases ofFile? f with
      | error e => rfl
      | ok found =>
        -- the first file adds what it defines to whatever is read from the others
        have step (xs : List TextFile) : List.reduceOption <$> (do
            let more ← xs.mapM ofFile?
            return found :: more) =
              (found.toList ++ ·) <$> List.reduceOption <$> xs.mapM ofFile? := by
          cases xs.mapM ofFile? with
          | error e => rfl
          | ok more => cases found <;> rfl
        rw [Outcome.ok_bind, Outcome.ok_bind]
        exact (step _).trans ((congrArg _ behind).trans (step _).symm)
    · have passed := (first.resolve_right kept).ofFile?_eq
      rw [List.filter_cons_of_neg kept, behind, List.mapM_cons, passed, Outcome.ok_bind]
      cases rest.mapM ofFile? <;> rfl

/-- Files that are passed over can be taken away. -/
theorem ofFiles_filter {keep : TextFile → Bool}
    (others : ∀ f ∈ files, f.PassedOver ∨ keep f = true) :
    ofFiles (files.filter keep) = ofFiles files := by
  rw [ofFiles_eq, ofFiles_eq, readingOrder_filter]
  exact mapM_filter_of_passedOver fun f hf => others f (mem_readingOrder.mp hf).1

/-- What is read from a directory are the templates that its data files define. -/
theorem mem_ofFiles {ds : List Definition} (h : ofFiles files = .ok ds) {d : Definition} :
    d ∈ ds ↔ ∃ f ∈ files, f.isDataFile = true ∧ f.Defines d := by
  rw [ofFiles_eq] at h
  obtain ⟨found, read, rfl⟩ := Outcome.map_eq_ok.mp h
  simp only [List.reduceOption_mem_iff, TextFile.defines_iff, ← and_assoc, ← mem_readingOrder]
  constructor
  · intro hd
    exact Outcome.mem_of_mapM_eq_ok read hd
  · rintro ⟨f, hf, defines⟩
    obtain ⟨i, at_i⟩ := List.mem_iff_getElem?.mp hf
    obtain ⟨y, hy, at_y⟩ := Outcome.getElem?_of_mapM_eq_ok read at_i
    rw [Except.ok.inj (defines.symm.trans hy)]
    exact List.mem_of_getElem? at_y

end Definition

/-! ### The whole directory -/

namespace Store

variable {s : Store} {files : List TextFile}

/-- A sync is complete if no file stops it. -/
theorem succeeds_sync_iff :
    Succeeds (s.sync files).1 ↔ ∀ f ∈ files, f.isDataFile = true → ¬ f.Breaks := by
  rw [← Definition.succeeds_ofFiles_iff, sync]
  cases Definition.ofFiles files with
  | ok ds => exact iff_of_true Outcome.succeeds_ok Outcome.succeeds_ok
  | error e => exact iff_of_false Outcome.not_succeeds_error Outcome.not_succeeds_error

/-- A sync that is stopped does nothing. -/
theorem sync_of_not_succeeds (fails : ¬ Succeeds (s.sync files).1) : (s.sync files).2 = s := by
  cases read : Definition.ofFiles files with
  | ok ds =>
    rw [sync_of_ofFiles read] at fails
    exact absurd Outcome.succeeds_ok fails
  | error e => rw [sync, read]

/-- Files that are passed over make no difference to a sync. -/
theorem sync_filter {keep : TextFile → Bool} (others : ∀ f ∈ files, f.PassedOver ∨ keep f = true) :
    s.sync (files.filter keep) = s.sync files := by
  rw [sync, Definition.ofFiles_filter others, sync]

/-- What is defined under an id in one file only is in the store when the sync is complete. -/
theorem contentOf?_sync
    (distinct : ∀ f ∈ files, ∀ g ∈ files, ∀ d e, f.Defines d → g.Defines e → d.id = e.id → f = g)
    (complete : Succeeds (s.sync files).1) {f : TextFile} (hf : f ∈ files)
    (data : f.isDataFile = true) {d : Definition} (defines : f.Defines d) :
    (s.sync files).2.contentOf? d.id = some d.content := by
  obtain ⟨ds, read⟩ := Definition.succeeds_ofFiles_iff.mpr (succeeds_sync_iff.mp complete)
  have hd : d ∈ ds := (Definition.mem_ofFiles read).mpr ⟨f, hf, data, defines⟩
  -- the last definition of the id decides, and only one file has it
  obtain ⟨content, last⟩ := lastContent?_isSome hd
  obtain ⟨e, he, same, rfl⟩ := mem_of_lastContent? last
  obtain ⟨g, hg, -, definesE⟩ := (Definition.mem_ofFiles read).mp he
  obtain rfl := distinct g hg f hf e d definesE defines same
  have one : e = d :=
    Option.some.inj (Except.ok.inj (definesE.ofFile?_eq.symm.trans defines.ofFile?_eq))
  rw [sync_of_ofFiles read, contentOf?_syncWith, last, Option.some_or, one]

/-- A sync with files of distinct ids is complete exactly if no data file stops it, and does nothing
otherwise. Files that are passed over make no difference to it. When it is complete, every template
that a file defines is in the store under its id. -/
theorem sync_skips (s : Store) (files : List TextFile)
    (distinct : ∀ f ∈ files, ∀ g ∈ files, ∀ d e, f.Defines d → g.Defines e → d.id = e.id → f = g) :
    (Succeeds (s.sync files).1 ↔ ∀ f ∈ files, f.isDataFile = true → ¬ f.Breaks) ∧
    (¬ Succeeds (s.sync files).1 → (s.sync files).2 = s) ∧
    (∀ keep : TextFile → Bool, (∀ f ∈ files, f.PassedOver ∨ keep f = true) →
      s.sync (files.filter keep) = s.sync files) ∧
    (Succeeds (s.sync files).1 → ∀ f ∈ files, f.isDataFile = true → ∀ d, f.Defines d →
      (s.sync files).2.contentOf? d.id = some d.content) :=
  ⟨succeeds_sync_iff, sync_of_not_succeeds, fun _ => sync_filter, fun complete _ hf data _ =>
    contentOf?_sync distinct complete hf data⟩

/-- A template, and a file whose text is not well formed. -/
def letterFile : TextFile where
  path := "b.yaml"
  text := "name: Letter\n"

def brokenFile : TextFile where
  path := "broken.yaml"
  text := "name: [\n"

/-- The template of the first one. -/
def letterDefinition : Definition where
  id := "b"
  content := { name := "Letter" }
  isDefault := false

theorem ofFile?_letterFile :
    Definition.ofFile? letterFile = .ok (some letterDefinition) := by decide +kernel

theorem ofFile?_brokenFile : Definition.ofFile? brokenFile = .ok none := by decide +kernel

theorem defines_letterFile {f : TextFile} (hf : f ∈ [letterFile, brokenFile]) {d : Definition}
    (h : f.Defines d) :
    f = letterFile := by
  rw [List.mem_pair] at hf
  refine hf.resolve_right ?_
  rintro rfl
  cases h.ofFile?_eq.symm.trans ofFile?_brokenFile

theorem brokenFile_skipped :
    (∀ f ∈ [letterFile, brokenFile], ∀ g ∈ [letterFile, brokenFile], ∀ d e, f.Defines d →
      g.Defines e → d.id = e.id → f = g) ∧
    Succeeds (Store.sync {} [letterFile, brokenFile]).1 ∧
    Store.sync {} [letterFile] = Store.sync {} [letterFile, brokenFile] ∧
    (Store.sync {} [letterFile, brokenFile]).2.contentOf? "b" = some { name := "Letter" } := by
  have distinct : ∀ f ∈ [letterFile, brokenFile], ∀ g ∈ [letterFile, brokenFile],
      ∀ d e, f.Defines d → g.Defines e → d.id = e.id → f = g := fun f hf g hg d e hd he _ =>
    (defines_letterFile hf hd).trans (defines_letterFile hg he).symm
  have letter : letterFile.Defines letterDefinition := TextFile.defines_iff.mpr ofFile?_letterFile
  have broken : brokenFile.PassedOver := TextFile.passedOver_iff.mpr ofFile?_brokenFile
  obtain ⟨complete, -, skipped, content⟩ := sync_skips {} [letterFile, brokenFile] distinct
  have done : Succeeds (Store.sync {} [letterFile, brokenFile]).1 := by
    refine complete.mpr fun f hf _ breaks => ?_
    rcases List.mem_pair.mp hf with rfl | rfl
    · exact breaks.not_succeeds ⟨_, ofFile?_letterFile⟩
    · exact breaks.not_succeeds ⟨_, ofFile?_brokenFile⟩
  refine ⟨distinct, done, ?_,
    content done letterFile List.mem_cons_self (by decide +kernel) _ letter⟩
  refine skipped (· = letterFile) fun f hf => ?_
  rcases List.mem_pair.mp hf with rfl | rfl
  · exact .inr (decide_eq_true rfl)
  · exact .inl broken

/-- A template with a day among its settings, which JSON has no form for. -/
def datedFile : TextFile where
  path := "a.yaml"
  text := "name: Offer\nsettings:\n  day: 2026-01-01\n"

/-- The day stops the sync, and the letter beside it is not stored. -/
theorem datedFile_stops : ¬ ∀ (s : Store) (files : List TextFile),
    (∀ f ∈ files, ∀ g ∈ files, ∀ d e, f.Defines d → g.Defines e → d.id = e.id → f = g) →
      Succeeds (s.sync files).1 := by
  intro always
  have stops : Definition.ofFile? datedFile = .error (.notStorable "date") := by decide +kernel
  have breaks : datedFile.Breaks := TextFile.breaks_iff.mpr fun done => by
    rw [stops] at done
    exact Outcome.not_succeeds_error done
  have alone {f : TextFile} (hf : f ∈ [datedFile, letterFile]) {d : Definition} (h : f.Defines d) :
      f = letterFile := by
    rw [List.mem_pair] at hf
    refine hf.resolve_left ?_
    rintro rfl
    cases h.ofFile?_eq.symm.trans stops
  have done :=
    always {} [datedFile, letterFile] fun f hf g hg d e hd he _ =>
      (alone hf hd).trans (alone hg he).symm
  exact succeeds_sync_iff.mp done datedFile List.mem_cons_self (by decide +kernel) breaks

end Store

end QuotationPress
