import GameLogs.Classification
import GameLogs.Document.Canonical
import GameLogs.Store.Database
namespace GameLogs

/-! What a consolidation would meet in a source.

Nothing is written: the documents are only counted.
-/

/-- Keys with how often each was met, in the order in which they were first met. -/
abbrev KeyCounts : Type := Entries String Nat

namespace KeyCounts

def count (counts : KeyCounts) (key : String) : Nat := (counts.item? key).getD 0

def add (counts : KeyCounts) (key : String) : KeyCounts := counts.put key (counts.count key + 1)

theorem count_add (counts : KeyCounts) (key other : String) :
    (counts.add key).count other = counts.count other + (if other = key then 1 else 0) := by
  by_cases same : other = key
  · simp [add, count, same]
  · simp [add, count, same, Entries.item?_put_of_ne same]

end KeyCounts

structure Survey where
  documents : Nat
  /-- Documents with a payload that is not empty. -/
  payloads : Nat
  /-- For each payload key that the root hides, the documents in which it does. -/
  hidden : KeyCounts
  /-- Documents that name a game of their own which is not the source's. -/
  otherGames : Nat
  anonymous : Nat
deriving DecidableEq, Repr

namespace Survey

def zero : Survey := ⟨0, 0, [], 0, 0⟩

end Survey

namespace Document

def hasPayload (doc : Document) : Bool :=
  match doc.payload? with
  | some (_ :: _) => true
  | _ => false

/-- Whether a document names a game of its own that is not the given one. -/
def namesOtherGame (doc : Document) (game : String) : Bool :=
  let own := doc.field Field.game
  !own.isNull && !own.equals (.string game)

end Document

namespace Source

/-- The payload keys of a document that are dropped one by one; a source that is not flattened loses
its payloads as a whole. -/
def droppedKeys (source : Source) (doc : Document) : List String :=
  if source.flatten && doc.hasPayload then doc.hiddenKeys else []

def addToSurvey (source : Source) (survey : Survey) (doc : Document) : Survey where
  documents := survey.documents + 1
  payloads := survey.payloads + (if doc.hasPayload then 1 else 0)
  hidden := (source.droppedKeys doc).foldl KeyCounts.add survey.hidden
  otherGames := survey.otherGames + (if doc.namesOtherGame source.game then 1 else 0)
  anonymous := survey.anonymous + (if doc.has Field.identity then 0 else 1)

def surveyOf (source : Source) (docs : List Document) : Survey :=
  docs.foldl source.addToSurvey .zero

/-- Surveys a source, or the part of it that a limit leaves. -/
def survey (source : Source) (rules : FailureRules) (limit : Int) : Job Collection Survey := do
  let collection ← Job.get
  let found ← Job.ofStore (collection.find rules .all)
  let docs ← Job.ofStore (Cursor.ofDocuments rules limit found).toList
  return source.surveyOf docs

end Source
end GameLogs
