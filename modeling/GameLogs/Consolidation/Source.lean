import GameLogs.Classification
import GameLogs.Consolidation.Insertion
import GameLogs.Document.Canonical
import GameLogs.Store.Database
namespace GameLogs

/-! Copying one source.

The documents of the source are brought into canonical form and inserted into the target one by
one.  No single document stops the work.
-/

/-- How many documents of a source were inserted, had been inserted before, or failed. -/
structure Tally where
  migrated : Nat
  skipped : Nat
  errors : Nat
deriving DecidableEq, Repr

namespace Tally

def zero : Tally := ⟨0, 0, 0⟩

def add (tally : Tally) : Insertion → Tally
  | .inserted => { tally with migrated := tally.migrated + 1 }
  | .alreadyExists => { tally with skipped := tally.skipped + 1 }
  | .failed _ => { tally with errors := tally.errors + 1 }

def total (tally : Tally) : Nat := tally.migrated + tally.skipped + tally.errors

@[simp] theorem total_add (tally : Tally) (insertion : Insertion) :
    (tally.add insertion).total = tally.total + 1 := by
  cases insertion <;> simp only [add, total] <;> omega

end Tally

namespace Source

def canonical (source : Source) (doc : Document) : Document :=
  doc.canonical (.string source.game) source.flatten

def warnings (source : Source) (doc : Document) : Insertion → List Notice
  | .failed detail => [.insertionFailed (doc.field Field.identity) source.name detail]
  | _ => []

/-- Shows how far a source of `total` documents has been read, whenever the cadence divides the
count. -/
def showProgress (source : Source) (cadence : Int) (count total : Nat) : Job Collection Unit :=
  if total = 0 then pure ()
  else if cadence = 0 then Job.stop .zeroCadence
  else if (count : Int) % cadence = 0 then Job.tell (.progress source.name count total)
  else pure ()

/-- Copies the document that is number `count` of its source. -/
def copyDocument (source : Source) (rules : FailureRules) (cadence : Int) (total count : Nat)
    (tally : Tally) (doc : Document) : Job Collection Tally := do
  let insertion ← Insertion.perform rules (source.canonical doc)
  Job.tellAll (source.warnings doc insertion)
  source.showProgress cadence count total
  return tally.add insertion

def copyDocuments (source : Source) (rules : FailureRules) (cadence : Int) (total : Nat) :
    Nat → Tally → List Document → Job Collection Tally
  | _, tally, [] => pure tally
  | count, tally, doc :: rest => do
      let tally ← source.copyDocument rules cadence total (count + 1) tally doc
      source.copyDocuments rules cadence total (count + 1) tally rest

def closingNotices (source : Source) (cadence : Int) (count : Nat) (tally : Tally) : List Notice :=
  (if cadence ≤ (count : Int) then [Notice.blank] else []) ++
    [.sourceMigrated source.name tally.migrated tally.skipped] ++
    (if tally.errors = 0 then [] else [.sourceErrors source.name tally.errors])

def openForReading (rules : FailureRules) : Job Collection (Nat × Cursor) := do
  let collection ← Job.get
  let total ← Job.ofStore (collection.count rules .all)
  let found ← Job.ofStore (collection.find rules .all)
  return (total, Cursor.ofDocuments rules 0 found)

def copyCursor (source : Source) (rules : FailureRules) (cadence : Int) (total : Nat)
    (cursor : Cursor) : Job Collection Tally := do
  let tally ← source.copyDocuments rules cadence total 0 .zero cursor.documents
  match cursor.fault? with
  | some fault => Job.stop (.store fault)
  | none =>
      Job.tellAll (source.closingNotices cadence cursor.documents.length tally)
      return tally

/-- Copies a source into a collection.  The source is read before the collection is written, so a
source that is copied into itself is read as it was. -/
def copyTo (source : Source) (setting : Setting) (target : String) : Job Database Tally := do
  Database.look target
  let (total, cursor) ← Database.on source.name (openForReading (setting.failures.of source.name))
  Database.on target
    (source.copyCursor (setting.failures.of target) setting.cadence total cursor)

end Source
end GameLogs
