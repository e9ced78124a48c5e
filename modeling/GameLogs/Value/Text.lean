import GameLogs.Calendar
import GameLogs.Double.Text
import GameLogs.Text.Quoted
import GameLogs.Value
namespace GameLogs.Value

/-! The text of a value in a message.

At the top a value is shown plainly; inside an array or a document it is shown so that its kind can
be told.
-/

def listed (items : List String) : String := ", ".intercalate items

/-- The components of a moment, shown inside another value. -/
def momentLiteral (milliseconds : Int) : String :=
  s!"datetime.datetime({listed ((Moment.ofMilliseconds milliseconds).components.map toString)})"

/-- The subtype of bytes that are not to be seen. -/
def sensitiveSubtype : Nat := 8

/-- Bytes, shown inside another value. -/
def binaryLiteral (subtype : Nat) (bytes : List UInt8) : String :=
  if subtype = sensitiveSubtype then s!"<Binary(REDACTED, {subtype})>"
  else s!"Binary({Text.quotedBytes bytes}, {subtype})"

mutual

/-- A value as it is shown inside another one. -/
def literal : Value → String
  | .null => "None"
  | .bool true => "True"
  | .bool false => "False"
  | .int value | .long value => toString value
  | .double value => value.text
  | .string text => Text.quoted text
  | .array elements => "[" ++ listed (elementLiterals elements) ++ "]"
  | .document fields => "\x7b" ++ listed (fieldLiterals fields) ++ "\x7d"
  | .objectId hex => s!"ObjectId({Text.quoted hex})"
  | .date milliseconds => momentLiteral milliseconds
  | .binary subtype bytes => binaryLiteral subtype bytes
  | .regex pattern flags => s!"Regex({Text.quoted pattern}, {flags})"
  | .timestamp time increment => s!"Timestamp({time}, {increment})"
  | .decimal text => s!"Decimal128({Text.quoted text})"
  | .code text => s!"Code({Text.quoted text}, None)"
  | .minKey => "MinKey()"
  | .maxKey => "MaxKey()"

def elementLiterals : List Value → List String
  | [] => []
  | element :: rest => literal element :: elementLiterals rest

def fieldLiterals : List (String × Value) → List String
  | [] => []
  | (key, value) :: rest => (Text.quoted key ++ ": " ++ literal value) :: fieldLiterals rest

end

def display : Value → String
  | .string text | .code text | .decimal text => text
  | .objectId hex => hex
  | .date milliseconds => (Moment.ofMilliseconds milliseconds).text
  | .binary _ bytes => Text.quotedBytes bytes
  | value => value.literal

end GameLogs.Value
