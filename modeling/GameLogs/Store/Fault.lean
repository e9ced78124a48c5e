import GameLogs.Store.Hashing
namespace GameLogs

/-! Faults of the store, and the rules that provoke them.

What a caller does about a fault depends on its kind alone.  Faults of the store itself and faults
of encoding a document are expected; every other kind stops the program.
-/

inductive FaultKind where
  /-- Any fault of the store that has no kind of its own. -/
  | store
  | connection
  | poolExhausted
  | reconnecting
  | networkTimeout
  | notPrimary
  | noServer
  | configuration
  | invalidAddress
  | operation
  | cursorLost
  | executionTimeout
  | writeConcern
  | writeConcernTimeout
  | write
  | duplicateKey
  | invalidOperation
  | invalidName
  | invalidCollection
  | protocol
  /-- Any fault of encoding a document that has no kind of its own. -/
  | encoding
  | malformedEncoding
  | unencodableString
  | invalidIdentity
  | invalidDocument
  | documentTooLarge
  | badValue
  | badType
  | overflow
  | missingKey
  | runtime
  /-- Any fault of the device that holds the files. -/
  | device
deriving DecidableEq, Repr

namespace FaultKind

def isConnection : FaultKind → Bool
  | .connection | .poolExhausted | .reconnecting | .networkTimeout | .notPrimary | .noServer => true
  | _ => false

def isEncoding : FaultKind → Bool
  | .encoding | .malformedEncoding | .unencodableString | .invalidIdentity | .invalidDocument
  | .documentTooLarge => true
  | _ => false

/-- Faults that have nothing to do with the store. -/
def isForeign : FaultKind → Bool
  | .badValue | .badType | .overflow | .missingKey | .runtime | .device => true
  | _ => false

/-- Faults of the store itself. -/
def isStore (kind : FaultKind) : Bool := !kind.isEncoding && !kind.isForeign

/-- The fault of inserting a document under an identity that is taken. -/
def isDuplicate : FaultKind → Bool
  | .duplicateKey => true
  | _ => false

end FaultKind

structure Fault where
  kind : FaultKind
  message : String
deriving DecidableEq, Repr

/-- The fault of looking up an identity that has no hash. -/
def Hashing.fault? (hashing : Hashing) (identity : Value) : Option Fault :=
  (hashing.refusal? identity).map (Fault.mk .badType)

theorem Hashing.kind_of_fault? {hashing : Hashing} {identity : Value} {fault : Fault}
    (found : hashing.fault? identity = some fault) : fault.kind = .badType := by
  obtain ⟨text, _, rfl⟩ := Option.map_eq_some_iff.mp found
  rfl

/-- A rule that makes an operation on a collection fail. -/
inductive FailureRule where
  | insert (identity : Value) (fault : Fault)
  /-- Insertions look the identity up by a hash, which it may not have. -/
  | hashing (hashing : Hashing)
  | index (name : String) (fault : Fault)
  | update (fault : Fault)
  | count (fault : Fault)
  | find (fault : Fault)
  | distinct (fault : Fault)
  /-- Reading on after so many documents of a search. -/
  | cursor (after : Nat) (fault : Fault)

/-- The rules of one collection; of several that apply the first counts. -/
abbrev FailureRules := List FailureRule

namespace FailureRules

def insertFault? (rules : FailureRules) (identity : Value) : Option Fault :=
  rules.findSome? fun
    | .insert failing fault => if failing.equals identity then some fault else none
    | .hashing hashing => hashing.fault? identity
    | _ => none

def indexFault? (rules : FailureRules) (name : String) : Option Fault :=
  rules.findSome? fun
    | .index failing fault => if failing = name then some fault else none
    | _ => none

def updateFault? (rules : FailureRules) : Option Fault :=
  rules.findSome? fun
    | .update fault => some fault
    | _ => none

def countFault? (rules : FailureRules) : Option Fault :=
  rules.findSome? fun
    | .count fault => some fault
    | _ => none

def findFault? (rules : FailureRules) : Option Fault :=
  rules.findSome? fun
    | .find fault => some fault
    | _ => none

def distinctFault? (rules : FailureRules) : Option Fault :=
  rules.findSome? fun
    | .distinct fault => some fault
    | _ => none

/-- The fault that strikes instead of the document at a position of a search. -/
def cursorFault? (rules : FailureRules) (position : Nat) : Option Fault :=
  rules.findSome? fun
    | .cursor after fault => if after = position then some fault else none
    | _ => none

end FailureRules

abbrev FailurePlan := List (String × FailureRule)

def FailurePlan.of (plan : FailurePlan) (collection : String) : FailureRules :=
  (plan.filter fun entry => entry.1 == collection).map Prod.snd

end GameLogs
