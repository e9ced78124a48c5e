import GameLogs.Calendar
import GameLogs.Double.Text
import GameLogs.Json
import GameLogs.Text.Base64
import GameLogs.Value
namespace GameLogs.Value

/-! Values as extended JSON.

What JSON knows is written as it is; every other kind is wrapped into an object whose member name
tells the kind.
-/

/-- The letters of a pattern's options, in the order in which they are written. -/
def optionLetters : List (Nat × Char) :=
  [(2, 'i'), (4, 'l'), (8, 'm'), (16, 's'), (32, 'u'), (64, 'x')]

def optionText (flags : Nat) : String :=
  String.ofList ((optionLetters.filter fun option => flags / option.1 % 2 = 1).map Prod.snd)

def wrapped (name : String) (content : Json) : Json := .object [(name, content)]

/-- A floating point number: what is not finite is written by name. -/
def doubleJson (d : Double) : Json :=
  if d.isNaN then wrapped "$numberDouble" (.string "NaN")
  else if d.isInfinite then
    wrapped "$numberDouble" (.string (if d.negative then "-Infinity" else "Infinity"))
  else .real d.text

/-- A date: before 1970 as a number, later in universal time. -/
def dateJson (milliseconds : Int) : Json :=
  wrapped "$date" <|
    if 0 ≤ milliseconds then .string (Moment.ofMilliseconds milliseconds).universal
    else wrapped "$numberLong" (.string (toString milliseconds))

mutual

def toJson : Value → Json
  | .null => .null
  | .bool value => .bool value
  | .int value | .long value => .integer value
  | .double value => doubleJson value
  | .string text => .string text
  | .array elements => .array (elementsJson elements)
  | .document fields => .object (fieldsJson fields)
  | .objectId hex => wrapped "$oid" (.string hex)
  | .date milliseconds => dateJson milliseconds
  | .binary subtype bytes =>
      wrapped "$binary" (.object
        [("base64", .string (Text.base64 bytes)),
          ("subType", .string (String.ofList (Text.hexDigits 2 subtype)))])
  | .regex pattern flags =>
      wrapped "$regularExpression" (.object
        [("pattern", .string pattern), ("options", .string (optionText flags))])
  | .timestamp time increment =>
      wrapped "$timestamp" (.object [("t", .integer time), ("i", .integer increment)])
  | .decimal text => wrapped "$numberDecimal" (.string text)
  | .code text => wrapped "$code" (.string text)
  | .minKey => wrapped "$minKey" (.integer 1)
  | .maxKey => wrapped "$maxKey" (.integer 1)

def elementsJson : List Value → List Json
  | [] => []
  | element :: rest => toJson element :: elementsJson rest

def fieldsJson : List (String × Value) → List (String × Json)
  | [] => []
  | (key, value) :: rest => (key, toJson value) :: fieldsJson rest

end

def documentsJson (docs : List Document) : Json := .array (docs.map fun doc => toJson (.document doc))

end GameLogs.Value
