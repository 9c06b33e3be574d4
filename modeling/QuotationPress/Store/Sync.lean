import QuotationPress.Store.Definition
import QuotationPress.Store.Edit

/-!
# Bringing the store in line with the definitions on file

`Store.syncWith` goes through definitions: a new one becomes a row, a changed one a new version of
its row. `Store.sync` does so for a directory, all or nothing.
-/

namespace QuotationPress

structure SyncReport where
  created : List String := []
  updated : List String := []
  deriving Repr, DecidableEq

namespace Store

/-- The row of a new definition. The mark of a default counts for new rows only. -/
def rowOfDefinition (s : Store) (d : Definition) : TemplateRow :=
  s.newRow d.id d.content d.isDefault (some "sync")

/-- New content in the row of a definition; its marks stay as they are. -/
def updateContent (s : Store) (d : Definition) : Store :=
  s.update d.id fun r => { r with toStoredContent := d.content, version := r.version + 1 }

/-- Brings one definition into the store. -/
def syncOne (d : Definition) (report : SyncReport) (s : Store) : SyncReport × Store :=
  match s.find? d.id with
  | some r =>
    if r.toStoredContent = d.content then (report, s)
    else ({ report with updated := report.updated ++ [d.id] }, s.updateContent d)
  | none =>
    let s' := if d.isDefault then s.clearDefaults d.content.scope none else s
    ({ report with created := report.created ++ [d.id] },
      { s' with rows := s'.rows ++ [s.rowOfDefinition d] })

def syncFrom : List Definition → SyncReport → Store → SyncReport × Store
  | [], report, s => (report, s)
  | d :: rest, report, s =>
    let (report, s) := syncOne d report s
    syncFrom rest report s

/-- Brings definitions into the store, one after the other. -/
def syncWith (s : Store) (ds : List Definition) : SyncReport × Store := syncFrom ds {} s

/-- Brings the definitions of a directory into the store. A failure leaves the store as it was. -/
def sync (s : Store) (files : List TextFile) : Outcome SyncReport × Store :=
  match Definition.ofFiles files with
  | .ok ds =>
    let (report, s) := s.syncWith ds
    (.ok report, s)
  | .error f => (.error f, s)

end Store

end QuotationPress
