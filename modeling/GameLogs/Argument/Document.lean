import GameLogs.Argument.Order
import GameLogs.Consolidation.Insertion
import GameLogs.Document.Canonical
import GameLogs.Survey.Report
namespace GameLogs.Argument

/-! Documents that may be values of any kind. -/

/-- The fault of asking a value that is no document for its identity, after it was found to hold
one. -/
def identityFault : Value → ArgumentFault
  | .array _ => .fieldOfArray
  | _ => .fieldOfText

def canonical (doc game flatten : Value) : Except ArgumentFault Document :=
  match doc with
  | .document fields => .ok (Document.canonical fields game flatten.truthy)
  | _ => do
      if ← doc.holdsText Field.identity then throw (identityFault doc)
      else throw (.noAttribute doc.kindName "items")

def hiddenKeys (doc : Value) : Except ArgumentFault (List String) :=
  match doc with
  | .document fields => .ok (Document.hiddenKeys fields)
  | _ => .error (.noAttribute doc.kindName "get")

/-- The identity of a document, null if it has none. -/
def identity (doc : Value) : Except ArgumentFault Value :=
  match doc with
  | .document fields => .ok (Document.field fields Field.identity)
  | _ => .error (.noAttribute doc.kindName "get")

def insert (rules : FailureRules) (doc : Value) : Job Collection Insertion :=
  match doc with
  | .document fields => Insertion.perform rules fields
  | _ => do
      let held ← Job.ofExcept ((doc.holdsText Field.identity).mapError .argument)
      if held then Job.stop (.argument (.noAttribute doc.kindName "get"))
      else return .failed Insertion.missingIdentity

def figure : Value → Except Error Int
  | .bool value => .ok (if value then 1 else 0)
  | .int value | .long value => .ok value
  | .string _ => .error .textFigure
  | value => .error (.unformattable value.kindName)

def entry (stats : Document) (name : String) : Except Error Value :=
  match stats.field? name with
  | none => .error (.missingEntry name)
  | some value => .ok value

/-- The counts of keys by key; of several counts of a key the last one stays. -/
def pairs (entries : List Value) : Document :=
  entries.foldl
    (fun counts entry =>
      match entry with
      | .array [.string key, count] => Document.put counts key count
      | _ => counts)
    []

/-- The counts of keys, or why they are refused.  They are put in order before the first one is
shown; the order is a descending one that keeps equal counts in place. -/
def hiddenCounts (counts : Document) : HiddenCounts :=
  match counts.mapM fun count => do return (count.1, ← figure count.2) with
  | .ok shown => .shown shown
  | .error error =>
      match ascending (counts.map Prod.snd).reverse with
      | .error fault => .refused (.argument fault)
      | .ok _ => .refused error

def reportHidden (stats : Document) : Except Error HiddenCounts := do
  match ← entry stats "collisions" with
  | .array entries => return hiddenCounts (pairs entries)
  | _ => return .shown []

def reportFigures (stats : Document) : ReportFigures where
  documents := entry stats "total" >>= figure
  payloads := entry stats "with_payload" >>= figure
  otherGames := entry stats "game_mismatch" >>= figure
  anonymous := entry stats "missing_id" >>= figure
  hidden := reportHidden stats

end GameLogs.Argument
