import GameLogs.Double
import GameLogs.Entries
namespace GameLogs

/-! Values of the document store. -/

inductive Value where
  | null
  | bool (value : Bool)
  | int (value : Int)
  /-- A whole number that is stored with 64 bits. -/
  | long (value : Int)
  | double (value : Double)
  | string (text : String)
  | array (elements : List Value)
  | document (fields : List (String × Value))
  | objectId (hex : String)
  /-- Milliseconds since the start of 1970. -/
  | date (milliseconds : Int)
  | binary (subtype : Nat) (bytes : List UInt8)
  | regex (pattern : String) (flags : Nat)
  | timestamp (time increment : Int)
  /-- A decimal number, kept as its text. -/
  | decimal (text : String)
  | code (text : String)
  | minKey
  | maxKey
deriving Inhabited

/-- The fields of a document in their order.  Keys are expected to be distinct. -/
abbrev Document : Type := Entries String Value

namespace Value

/-- The text of a string, or of code, which is a kind of string. -/
def text? : Value → Option String
  | .string text | .code text => some text
  | _ => none

def document? : Value → Option Document
  | .document fields => some fields
  | _ => none

def isNull : Value → Bool
  | .null => true
  | _ => false

end Value
end GameLogs
