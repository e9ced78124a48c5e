import GameLogs.Job
import GameLogs.Store.Collection
namespace GameLogs

/-! Inserting one document into the target.

An identity that is taken is no error: the document has been copied before.
-/

inductive Insertion where
  | inserted
  | alreadyExists
  | failed (detail : String)
deriving DecidableEq, Repr

namespace Insertion

def names : List (String × String) :=
  [("INSERTED", "inserted"), ("ALREADY_EXISTS", "already_exists"), ("FAILED", "failed")]

/-- Why a document without an identity is refused: it would get a new one every time. -/
def missingIdentity : String := s!"documento sin {Field.identity}"

/-- What a fault of the insertion means; faults that are not expected stay faults. -/
def ofFault (fault : Fault) : Except Fault Insertion :=
  if fault.kind.isDuplicate then .ok .alreadyExists
  else if fault.kind.isStore || fault.kind.isEncoding then .ok (.failed fault.message)
  else .error fault

def perform (rules : FailureRules) (doc : Document) : Job Collection Insertion :=
  if doc.has Field.identity then do
    let collection ← Job.get
    match collection.insert rules doc with
    | .ok grown =>
        Job.set grown
        return .inserted
    | .error fault => Job.ofStore (ofFault fault)
  else return .failed missingIdentity

variable {rules : FailureRules} {doc : Document} {collection : Collection}

theorem run_perform_of_anonymous (anonymous : doc.has Field.identity = false) :
    (perform rules doc).run collection = ⟨.ok (.failed missingIdentity), collection, []⟩ := by
  simp [perform, anonymous]

theorem run_perform_of_ok {grown : Collection} (named : doc.has Field.identity = true)
    (accepted : collection.insert rules doc = .ok grown) :
    (perform rules doc).run collection = ⟨.ok .inserted, grown, []⟩ := by
  simp [perform, named, accepted, Outcome.andThen]

/-- A refused document leaves the collection as it was. -/
theorem run_perform_of_error {fault : Fault} (named : doc.has Field.identity = true)
    (refused : collection.insert rules doc = .error fault) :
    (perform rules doc).run collection =
      ⟨(ofFault fault).mapError .store, collection, []⟩ := by
  simp [perform, named, refused, Outcome.andThen, Job.ofStore]

end Insertion
end GameLogs
