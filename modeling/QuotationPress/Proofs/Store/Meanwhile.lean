import QuotationPress.Proofs.Store.Versions

/-!
# Patches with other writers in between

A patch looks at the version of its row, and the write compares the version once more. `PatchEnd`
sorts what can come of it when other writers do whatever they do between the two. A patch that is
refused leaves what the others have done, and nothing else (`patchAmid_store`); one that goes
through has found the expected version both times (`patchAmid_updated_iff`). Where the others keep
to the writes of the store, nothing they did to the row is lost (`agrees_of_updated`), and a patch
that they let through with the same expected version shuts this one out (`not_updated_of_patched`).
-/

namespace QuotationPress.Store

variable {s : Store} {id : String} {p : TemplatePatch} {meanwhile : Store → Store}

/-- The row has the version that the patch expects. -/
def Seen (s : Store) (id : String) (p : TemplatePatch) : Prop :=
  ∃ r, s.find? id = some r ∧ r.version = p.expectedVersion

theorem seen_iff {r : TemplateRow} (found : s.find? id = some r) :
    s.Seen id p ↔ r.version = p.expectedVersion := by
  simp [Seen, found]

/-- How a patch ends: at the look at its row, or at the write. -/
inductive PatchEnd (s : Store) (id : String) (p : TemplatePatch) (meanwhile : Store → Store) :
    Outcome Patched × Store → Prop
  | missing (absent : s.find? id = none) : PatchEnd s id p meanwhile (.ok .missing, s)
  | stale {r : TemplateRow} (found : s.find? id = some r) (other : r.version ≠ p.expectedVersion) :
      PatchEnd s id p meanwhile (.ok (.conflict p.expectedVersion r.version), s)
  | gone (seen : s.Seen id p) (absent : (meanwhile s).find? id = none) :
      PatchEnd s id p meanwhile (.ok .missing, meanwhile s)
  | overtaken {now : TemplateRow} (seen : s.Seen id p) (found : (meanwhile s).find? id = some now)
      (other : now.version ≠ p.expectedVersion) :
      PatchEnd s id p meanwhile (.ok (.conflict p.expectedVersion now.version), meanwhile s)
  | settled {now : TemplateRow} (seen : s.Seen id p) (found : (meanwhile s).find? id = some now)
      (same : now.version = p.expectedVersion) :
      PatchEnd s id p meanwhile ((meanwhile s).patchRow now p)

/-- A patch ends in one of the five ways, whatever happens between its look and its write. -/
theorem patchEnd (s : Store) (id : String) (p : TemplatePatch) (meanwhile : Store → Store) :
    PatchEnd s id p meanwhile (s.patchAmid id p meanwhile) := by
  unfold patchAmid
  cases first : s.find? id with
  | none => exact .missing first
  | some r =>
    dsimp only
    split_ifs with old
    · exact .stale first old
    · have seen : s.Seen id p := (seen_iff first).mpr (not_not.mp old)
      cases second : (meanwhile s).find? id with
      | none => exact .gone seen second
      | some now =>
        dsimp only
        split_ifs with new
        · exact .overtaken seen second new
        · exact .settled seen second (not_not.mp new)

/-- A row whose patch fails to apply is not written. -/
theorem patchRow_store {now : TemplateRow}
    (refused : ∀ row, (s.patchRow now p).1 ≠ .ok (.updated row)) :
    (s.patchRow now p).2 = s := by
  unfold patchRow at refused ⊢
  cases applied : p.applied now.toStoredContent with
  | error f => rfl
  | ok content =>
    rw [applied] at refused
    exact absurd rfl (refused _)

/-- A patch that is refused has written nothing: the store is as it was at the look if the version
was another one already, and otherwise as the others have left it. -/
theorem patchAmid_store (refused : ∀ row, (s.patchAmid id p meanwhile).1 ≠ .ok (.updated row)) :
    (¬ s.Seen id p ∧ (s.patchAmid id p meanwhile).2 = s) ∨
      (s.Seen id p ∧ (s.patchAmid id p meanwhile).2 = meanwhile s) := by
  have ending := patchEnd s id p meanwhile
  generalize s.patchAmid id p meanwhile = result at ending refused ⊢
  -- of the five ways only the last can write, and it does not if the patch is refused
  cases ending with
  | missing absent => exact .inl ⟨fun ⟨r, found, _⟩ => by simp [absent] at found, rfl⟩
  | stale found other => exact .inl ⟨mt (seen_iff found).mp other, rfl⟩
  | gone seen absent => exact .inr ⟨seen, rfl⟩
  | overtaken seen found other => exact .inr ⟨seen, rfl⟩
  | settled seen found same => exact .inr ⟨seen, patchRow_store refused⟩

/-- A patch goes through just if its row has the expected version at the look and at the write, and
takes the fields. -/
theorem patchAmid_updated_iff {row : TemplateRow} :
    (s.patchAmid id p meanwhile).1 = .ok (.updated row) ↔ s.Seen id p ∧
      ∃ now, (meanwhile s).find? id = some now ∧ now.version = p.expectedVersion ∧
        ((meanwhile s).patchRow now p).1 = .ok (.updated row) := by
  constructor
  · intro h
    have ending := patchEnd s id p meanwhile
    generalize s.patchAmid id p meanwhile = result at ending h
    cases ending with
    | missing | stale | gone | overtaken => cases h
    | @settled now seen found same => exact ⟨seen, now, found, same, h⟩
  · rintro ⟨⟨r, first, version⟩, now, second, same, h⟩
    simpa [patchAmid, first, version, second, same] using h

/-! ### Writers that keep to the writes of the store -/

variable {acts : List StoreAction} {row : TemplateRow}

/-- A patch that goes through writes over the row that it has looked at, up to the default mark and
the date of change, whatever edits and syncs come in between. -/
theorem agrees_of_updated (h : (s.patchAmid id p fun s => s.run acts).1 = .ok (.updated row)) :
    ∃ r now, s.find? id = some r ∧ (s.run acts).find? id = some now ∧
      r.version = p.expectedVersion ∧ r.Agrees now := by
  obtain ⟨⟨r, first, version⟩, now, second, same, -⟩ := patchAmid_updated_iff.mp h
  obtain ⟨now', second', later⟩ := precedes_run s acts id r first
  obtain rfl : now = now' := Option.some.inj (second.symm.trans second')
  exact ⟨r, now, first, second, version, later.agrees (version.trans same.symm)⟩

/-- Of two patches that expect one version, the one whose look comes first does not overwrite the
other: if that goes through in between, this one is refused. -/
theorem not_updated_of_patched {i : ℕ} {q : TemplatePatch} {other : TemplateRow}
    (step : acts[i]? = some (.edit (.patch id q)))
    (expected : q.expectedVersion = p.expectedVersion)
    (patched : ((s.run (acts.take i)).patch id q).1 = .ok (.updated other)) :
    (s.patchAmid id p fun s => s.run acts).1 ≠ .ok (.updated row) := by
  intro h
  obtain ⟨-, now, found, same, -⟩ := patchAmid_updated_iff.mp h
  obtain ⟨-, -, -, next, stored, version⟩ := version_of_updated patched
  have stored : (s.run (acts.take (i + 1))).find? id = some next := by
    rw [run_take_succ s step]
    exact stored
  -- the version has moved on with the other patch, and never goes back
  have later := precedes_run_take s acts (Nat.succ_le_of_lt (List.getElem?_eq_some_iff.mp step).1)
  rw [List.take_length] at later
  obtain ⟨now', found', passed⟩ := later id next stored
  obtain rfl : now = now' := Option.some.inj (found.symm.trans found')
  have version_le := passed.version_le
  omega

end QuotationPress.Store
