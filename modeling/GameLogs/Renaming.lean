import GameLogs.Store.Database
namespace GameLogs

/-! Renaming a field in all documents of a collection. -/

structure Renaming where
  former : String
  current : String
deriving DecidableEq, Repr

/-- How many documents had the old field, were changed, and have the new field in the end. -/
structure RenamingReport where
  pending : Nat
  changed : Nat
  done : Nat
  failure? : Option String
deriving DecidableEq, Repr

namespace Renaming

def standard : Renaming := ⟨Field.formerTime, Field.serverTime⟩

def countField (rules : FailureRules) (field : String) : Job Collection Nat := do
  let collection ← Job.get
  let count ← Job.ofStore (collection.count rules (.having field))
  Job.tell (.fieldCount field count)
  return count

/-- Changes the documents that have the old field; a fault of the store is reported. -/
def change (fields : Renaming) (rules : FailureRules) :
    Job Collection (Except String Nat) := do
  let collection ← Job.get
  match collection.rename rules fields.former fields.current with
  | .ok (renamed, count) =>
      Job.set renamed
      Job.tell (.renamed count)
      return .ok count
  | .error fault =>
      if fault.kind.isStore then
        Job.tellAll [.renameFailed fields.former fault.message, .renameCanBeRepeated]
        return .error fault.message
      else Job.stop (.store fault)

/-- Renames a field wherever it is.  Nothing is written if no document has it. -/
def perform (fields : Renaming) (rules : FailureRules) : Job Collection RenamingReport := do
  let pending ← countField rules fields.former
  let changed ←
    if pending = 0 then do
      Job.tell .nothingToRename
      pure (.ok 0)
    else fields.change rules
  let done ← countField rules fields.current
  match changed with
  | .ok changed => return ⟨pending, changed, done, none⟩
  | .error detail => return ⟨pending, 0, done, some detail⟩

end Renaming
end GameLogs
