import GameLogs.Argument.Fault
import GameLogs.Document.Fields
import GameLogs.Value.Content
namespace GameLogs.Value

/-! Values as arguments of any kind. -/

def kindName : Value → String
  | .null => "NoneType"
  | .bool _ => "bool"
  | .int _ => "int"
  | .long _ => "Int64"
  | .double _ => "float"
  | .string _ => "str"
  | .array _ => "list"
  | .document _ => "dict"
  | .objectId _ => "ObjectId"
  | .date _ => "datetime.datetime"
  | .binary .. => "Binary"
  | .regex .. => "Regex"
  | .timestamp .. => "Timestamp"
  | .decimal _ => "Decimal128"
  | .code _ => "Code"
  | .minKey => "MinKey"
  | .maxKey => "MaxKey"

/-- Whether a value counts as true: zero and what is empty do not. -/
def truthy : Value → Bool
  | .null => false
  | .bool value => value
  | .int value | .long value => value != 0
  | .double value => value.isNaN || value.isInfinite || value.significand != 0
  | .string text | .code text => text != ""
  | .array elements => !elements.isEmpty
  | .document fields => !fields.isEmpty
  | .binary _ bytes => !bytes.isEmpty
  | _ => true

def strings? : Value → Option (List String)
  | .array elements => elements.mapM fun
      | .string text => some text
      | _ => none
  | _ => none

/-- Whether some characters occur side by side in others. -/
def occursIn (part : List Char) : List Char → Bool
  | [] => part.isEmpty
  | c :: rest => part.isPrefixOf (c :: rest) || occursIn part rest

/-- Whether a value holds a text: as a key, as an element, or as a part of a text. -/
def holdsText (value : Value) (text : String) : Except ArgumentFault Bool :=
  match value with
  | .document fields => .ok (Document.has fields text)
  | .array elements => .ok (elements.any (·.equals (.string text)))
  | .string whole | .code whole => .ok (occursIn text.toList whole.toList)
  | .binary .. => .error .textInBytes
  | _ => .error (.noMembers value.kindName)

def holds (value member : Value) : Except ArgumentFault Bool :=
  match member with
  | .string text => value.holdsText text
  | _ =>
      match value with
      | .document _ => .ok false
      | .array elements => .ok (elements.any (·.equals member))
      | .string _ => .error (.noSubtext member.kindName)
      | _ => .error (.noMembers value.kindName)

end GameLogs.Value
