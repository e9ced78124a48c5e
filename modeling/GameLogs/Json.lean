import GameLogs.Text.Quoted
namespace GameLogs

/-! JSON text over several lines.

Every level is indented by two blanks, and members are kept in their order.
-/

/-- A JSON value with ordered members. -/
inductive Json where
  | null
  | bool (value : Bool)
  | integer (value : Int)
  /-- A number that is not whole, as it is written. -/
  | real (text : String)
  | string (text : String)
  | array (elements : List Json)
  | object (members : List (String × Json))
deriving Inhabited

namespace Json

/-- A character of a string: only quotes, backslashes and controls are escaped. -/
def escapedChar (c : Char) : List Char :=
  if c = '"' ∨ c = '\\' then ['\\', c]
  else if c = '\n' then ['\\', 'n']
  else if c = '\r' then ['\\', 'r']
  else if c = '\t' then ['\\', 't']
  else if c.toNat = 8 then ['\\', 'b']
  else if c.toNat = 12 then ['\\', 'f']
  else if c.toNat < 0x20 then '\\' :: 'u' :: Text.hexDigits 4 c.toNat
  else [c]

def stringChars (text : String) : List Char :=
  '"' :: text.toList.flatMap escapedChar ++ ['"']

def integerChars (value : Int) : List Char :=
  if value < 0 then '-' :: Nat.toDigits 10 value.natAbs else Nat.toDigits 10 value.natAbs

def lineBreak (level : Nat) : List Char := '\n' :: List.replicate (2 * level) ' '

mutual

def chars (level : Nat) : Json → List Char
  | .null => ['n', 'u', 'l', 'l']
  | .bool true => ['t', 'r', 'u', 'e']
  | .bool false => ['f', 'a', 'l', 's', 'e']
  | .integer value => integerChars value
  | .real text => text.toList
  | .string text => stringChars text
  | .array [] => ['[', ']']
  | .array (first :: rest) =>
      '[' :: (lineBreak (level + 1) ++ (chars (level + 1) first ++
        (restElements (level + 1) rest ++ (lineBreak level ++ [']']))))
  | .object [] => ['{', '}']
  | .object ((name, first) :: rest) =>
      '{' :: (lineBreak (level + 1) ++ (stringChars name ++ (':' :: ' ' ::
        (chars (level + 1) first ++ (restMembers (level + 1) rest ++ (lineBreak level ++ ['}']))))))

/-- The elements after the first one, each behind a comma. -/
def restElements (level : Nat) : List Json → List Char
  | [] => []
  | element :: rest =>
      ',' :: (lineBreak level ++ (chars level element ++ restElements level rest))

/-- The members after the first one, each behind a comma. -/
def restMembers (level : Nat) : List (String × Json) → List Char
  | [] => []
  | (name, value) :: rest =>
      ',' :: (lineBreak level ++ (stringChars name ++ (':' :: ' ' ::
        (chars level value ++ restMembers level rest))))

end

def render (json : Json) : String := String.ofList (json.chars 0)

end Json
end GameLogs
