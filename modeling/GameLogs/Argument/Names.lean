import GameLogs.Argument.Order
import GameLogs.Classification
import GameLogs.Error
import GameLogs.Value.Text
namespace GameLogs.Argument

/-! Names that may be values of any kind.

Where every argument has the expected kind the answer is that of the plain operation.  Otherwise the
names are gone through one by one, and the first that cannot be used stops the operation.
-/

def isReservedName (name : Value) : Except ArgumentFault Bool :=
  match name with
  | .string name => .ok (GameLogs.isReservedName name)
  | _ => .error (.noAttribute name.kindName "startswith")

def index (name : Value) : Except Error IndexDefinition :=
  let found? := match name with
    | .string name => IndexDefinition.find? name
    | _ => none
  match found? with
  | some index => .ok index
  | none => .error (.unknownIndex name.display)

/-- A classification whose excluded names may be values of any kind. -/
structure MixedGroups where
  prefixed : List Source
  raw : List Source
  excluded : List Value

namespace MixedGroups

def ofClassification (classified : Classification) : MixedGroups where
  prefixed := classified.prefixed
  raw := classified.raw
  excluded := classified.excluded.map .string

def sources (groups : MixedGroups) : List Source := groups.prefixed ++ groups.raw

end MixedGroups

def elements : Value → Except ArgumentFault (List Value)
  | .array elements => .ok elements
  | .string text => .ok (text.toList.map fun c => .string (String.ofList [c]))
  | .document fields => .ok (fields.map fun field => .string field.1)
  | value => .error (.notIterable value.kindName)

def checkMember : Value → Except ArgumentFault Unit
  | .array elements => .error (.unhashable (Value.array elements).kindName)
  | .document fields => .error (.unhashable (Value.document fields).kindName)
  | _ => .ok ()

def insertDistinct (name : Value) : List Value → Except ArgumentFault (List Value)
  | [] => .ok [name]
  | first :: rest => do
      if name.equals first then return first :: rest
      else if ← comesBefore name first then return name :: first :: rest
      else return first :: (← insertDistinct name rest)

def distinctNames (names : List Value) : Except ArgumentFault (List Value) := do
  names.forM checkMember
  names.foldlM (fun sorted name => insertDistinct name sorted) []

/-- The group of a name.  What is empty or zero is excluded without a look at the rest. -/
def placement (system logPrefix name : Value) : Except ArgumentFault Placement := do
  if !name.truthy then return .excluded
  else if ← system.holds name then return .excluded
  else
    match name, logPrefix with
    | .string text, .string beginning => return .of [] beginning text
    | .string text, _ =>
        if Text.startsWith text Schema.storePrefix then return .excluded
        else throw (.noBeginning logPrefix.kindName)
    | _, _ => throw (.noAttribute name.kindName "startswith")

def addName (groups : MixedGroups) (name : Value) (placement : Placement) : MixedGroups :=
  match placement, name with
  | .prefixed game, .string text => { groups with prefixed := ⟨text, game, true⟩ :: groups.prefixed }
  | .raw, .string text => { groups with raw := ⟨text, text, false⟩ :: groups.raw }
  | _, _ => { groups with excluded := name :: groups.excluded }

def mixedGroups (names system logPrefix : Value) : Except ArgumentFault MixedGroups := do
  let sorted ← distinctNames (← elements names)
  let placed ← sorted.mapM fun name => do return (name, ← placement system logPrefix name)
  return placed.foldr (fun entry groups => addName groups entry.1 entry.2) ⟨[], [], []⟩

def classify (names : Value) (system? logPrefix? : Option Value) :
    Except ArgumentFault MixedGroups :=
  let standard : Value := .array (Schema.reserved.map .string)
  let system := match system? with
    | none | some .null => standard
    | some system => system
  let logPrefix := logPrefix?.getD (.string Schema.logPrefix)
  match names.strings?, system.strings?, logPrefix with
  | some names, some system, .string beginning =>
      .ok (.ofClassification (.ofNames names system beginning))
  | _, _, _ => mixedGroups names system logPrefix

end GameLogs.Argument
