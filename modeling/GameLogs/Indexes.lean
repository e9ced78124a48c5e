import GameLogs.Store.Database
namespace GameLogs

/-! Building the indexes of a collection.

Every index is built by itself: one that fails does not keep the others from being built.
-/

/-- An index that is asked for; an entry that lacks its keys or its name cannot be built. -/
structure IndexRequest where
  keys? : Option (List (String × Int))
  name? : Option String
deriving DecidableEq, Repr

namespace IndexRequest

def ofDefinition (index : IndexDefinition) : IndexRequest := ⟨some index.keys, some index.name⟩

def configured : List IndexRequest := IndexDefinition.configured.map ofDefinition

/-- The name and the keys of a complete request; the keys are looked for first. -/
def complete (request : IndexRequest) : Except Error (String × List (String × Int)) :=
  match request.keys?, request.name? with
  | none, _ => .error (.missingEntry "keys")
  | some _, none => .error (.missingEntry "name")
  | some keys, some name => .ok (name, keys)

end IndexRequest

/-- The names of the indexes that were built and of those that failed. -/
structure IndexReport where
  built : List String
  failed : List String
deriving DecidableEq, Repr

namespace IndexReport

def empty : IndexReport := ⟨[], []⟩

end IndexReport

def buildIndex (rules : FailureRules) (report : IndexReport) (request : IndexRequest) :
    Job Collection IndexReport := do
  let (name, keys) ← Job.ofExcept request.complete
  let collection ← Job.get
  match collection.build rules name ⟨keys, true⟩ with
  | .ok built =>
      Job.set built
      Job.tell (.indexBuilt name)
      return { report with built := report.built ++ [name] }
  | .error fault =>
      if fault.kind.isStore then
        Job.tell (.indexFailed name fault.message)
        return { report with failed := report.failed ++ [name] }
      else Job.stop (.store fault)

def buildIndexes (rules : FailureRules) (requests : List IndexRequest) :
    Job Collection IndexReport :=
  requests.foldlM (buildIndex rules) .empty

end GameLogs
