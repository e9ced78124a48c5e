import GameLogs.Json
import GameLogs.Text.Integer
namespace GameLogs.Json

/-! Reading JSON text.

All of JSON is read: blanks between the parts, every escape and every form of number.  Members keep
the order in which they are written.
-/

/-- A blank between two parts of a text. -/
def isGap (c : Char) : Bool := c == ' ' || c == '\n' || c == '\r' || c == '\t'

def skipGaps (chars : List Char) : List Char := chars.dropWhile isGap

def hexDigit? (c : Char) : Option Nat :=
  if '0' ≤ c ∧ c ≤ '9' then some (c.toNat - '0'.toNat)
  else if 'a' ≤ c ∧ c ≤ 'f' then some (c.toNat - 'a'.toNat + 10)
  else if 'A' ≤ c ∧ c ≤ 'F' then some (c.toNat - 'A'.toNat + 10)
  else none

/-- The number of four hexadecimal digits, and what follows them. -/
def readUnit : List Char → Option (Nat × List Char)
  | a :: b :: c :: d :: rest => do
      let a ← hexDigit? a
      let b ← hexDigit? b
      let c ← hexDigit? c
      let d ← hexDigit? d
      return (((a * 16 + b) * 16 + c) * 16 + d, rest)
  | _ => none

/-- A character that is written by its code.  Codes of more than four digits are written in two
halves, and half a code is no character. -/
def readCode (chars : List Char) : Option (Char × List Char) := do
  let (high, rest) ← readUnit chars
  if high < 0xd800 ∨ 0xe000 ≤ high then return (Char.ofNat high, rest)
  else
    match rest with
    | '\\' :: 'u' :: rest => do
        let (low, rest) ← readUnit rest
        if high < 0xdc00 ∧ 0xdc00 ≤ low ∧ low < 0xe000 then
          return (Char.ofNat (0x10000 + (high - 0xd800) * 0x400 + (low - 0xdc00)), rest)
        else none
    | _ => none

def readEscape : List Char → Option (Char × List Char)
  | 'u' :: rest => readCode rest
  | 'b' :: rest => some (Char.ofNat 8, rest)
  | 'f' :: rest => some (Char.ofNat 12, rest)
  | 'n' :: rest => some ('\n', rest)
  | 'r' :: rest => some ('\r', rest)
  | 't' :: rest => some ('\t', rest)
  | c :: rest => if c = '"' ∨ c = '\\' ∨ c = '/' then some (c, rest) else none
  | [] => none

/-- The characters of a string up to its closing quote, and what follows it. -/
def readString : Nat → List Char → Option (List Char × List Char)
  | 0, _ => none
  | _ + 1, [] => none
  | fuel + 1, c :: rest =>
      if c = '"' then some ([], rest)
      else if c = '\\' then do
        let (c, rest) ← readEscape rest
        let (text, rest) ← readString fuel rest
        return (c :: text, rest)
      else if c.toNat < 0x20 then none
      else do
        let (text, rest) ← readString fuel rest
        return (c :: text, rest)

/-- A row of at least one digit, and what follows it. -/
def readDigits (chars : List Char) : Option (List Char × List Char) :=
  let digits := chars.takeWhile Char.isDigit
  if digits = [] then none else some (digits, chars.dropWhile Char.isDigit)

/-- The decimal places of a number, with their point. -/
def readPlaces : List Char → Option (List Char × List Char)
  | '.' :: rest => (readDigits rest).map fun (digits, rest) => ('.' :: digits, rest)
  | chars => some ([], chars)

/-- The exponent of a number, with its letter and its sign. -/
def readExponent : List Char → Option (List Char × List Char)
  | mark :: rest =>
      if mark = 'e' ∨ mark = 'E' then
        match rest with
        | sign :: digits =>
            if sign = '+' ∨ sign = '-' then
              (readDigits digits).map fun (digits, rest) => (mark :: sign :: digits, rest)
            else (readDigits rest).map fun (digits, rest) => (mark :: digits, rest)
        | [] => none
      else some ([], mark :: rest)
  | [] => some ([], [])

/-- A number without its sign.  Further digits do not follow a zero. -/
def readUnsigned (negative : Bool) (chars : List Char) : Option (Json × List Char) := do
  let (whole, rest) ← readDigits chars
  if whole.head? = some '0' ∧ 1 < whole.length then none
  else
    let (places, rest) ← readPlaces rest
    let (exponent, rest) ← readExponent rest
    if places = [] ∧ exponent = [] then
      let size := Text.ofDigits (whole.map fun c => c.toNat - '0'.toNat)
      return (.integer (if negative then -(size : Int) else size), rest)
    else
      let sign := if negative then ['-'] else []
      return (.real (String.ofList (sign ++ whole ++ places ++ exponent)), rest)

def readNumber : List Char → Option (Json × List Char)
  | '-' :: rest => readUnsigned true rest
  | chars => readUnsigned false chars

mutual

def readValue : Nat → List Char → Option (Json × List Char)
  | 0, _ => none
  | fuel + 1, chars =>
      match skipGaps chars with
      | 'n' :: 'u' :: 'l' :: 'l' :: rest => some (.null, rest)
      | 't' :: 'r' :: 'u' :: 'e' :: rest => some (.bool true, rest)
      | 'f' :: 'a' :: 'l' :: 's' :: 'e' :: rest => some (.bool false, rest)
      | '"' :: rest => do
          let (text, rest) ← readString fuel rest
          return (.string (String.ofList text), rest)
      | '[' :: rest =>
          match skipGaps rest with
          | ']' :: rest => some (.array [], rest)
          | rest => do
              let (elements, rest) ← readElements fuel rest
              return (.array elements, rest)
      | '{' :: rest =>
          match skipGaps rest with
          | '}' :: rest => some (.object [], rest)
          | rest => do
              let (members, rest) ← readMembers fuel rest
              return (.object members, rest)
      | chars => readNumber chars

/-- At least one element, up to the bracket that closes the array. -/
def readElements : Nat → List Char → Option (List Json × List Char)
  | 0, _ => none
  | fuel + 1, chars => do
      let (first, rest) ← readValue fuel chars
      match skipGaps rest with
      | ']' :: rest => return ([first], rest)
      | ',' :: rest => do
          let (others, rest) ← readElements fuel rest
          return (first :: others, rest)
      | _ => none

/-- At least one member, up to the brace that closes the object. -/
def readMembers : Nat → List Char → Option (List (String × Json) × List Char)
  | 0, _ => none
  | fuel + 1, chars =>
      match skipGaps chars with
      | '"' :: rest => do
          let (name, rest) ← readString fuel rest
          match skipGaps rest with
          | ':' :: rest => do
              let (value, rest) ← readValue fuel rest
              let member := (String.ofList name, value)
              match skipGaps rest with
              | '}' :: rest => return ([member], rest)
              | ',' :: rest => do
                  let (others, rest) ← readMembers fuel rest
                  return (member :: others, rest)
              | _ => none
          | _ => none
      | _ => none

end

/-- Reads a text that holds one value.  Of two nested calls at least one reads a character, so twice
the length of the text is enough fuel. -/
def read? (text : String) : Option Json :=
  let chars := text.toList
  match readValue (2 * chars.length + 2) chars with
  | some (json, rest) => if skipGaps rest = [] then some json else none
  | none => none

def member? (name : String) : Json → Option Json
  | .object members => (members.reverse.find? fun member => member.1 == name).map Prod.snd
  | _ => none

end GameLogs.Json
