import GameLogs.Text.Padding
import GameLogs.Text.Printable
namespace GameLogs.Text

/-! Quoted text.

A text is shown between quotation marks, with escapes for what could not be read otherwise.
-/

/-- The escape of a character that is not printable, by the size of its code point. -/
def escapedCode (c : Char) : List Char :=
  if c.toNat < 0x100 then '\\' :: 'x' :: hexDigits 2 c.toNat
  else if c.toNat < 0x10000 then '\\' :: 'u' :: hexDigits 4 c.toNat
  else '\\' :: 'U' :: hexDigits 8 c.toNat

def quotedChar (mark c : Char) : List Char :=
  if c = mark ∨ c = '\\' then ['\\', c]
  else if c = '\n' then ['\\', 'n']
  else if c = '\r' then ['\\', 'r']
  else if c = '\t' then ['\\', 't']
  else if isPrintable c then [c]
  else escapedCode c

/-- The apostrophe, unless the text holds apostrophes and no double quote. -/
def quotationMark (text : List Char) : Char :=
  if text.contains '\'' && !text.contains '"' then '"' else '\''

def quotedChars (text : List Char) : List Char :=
  let mark := quotationMark text
  mark :: text.flatMap (quotedChar mark) ++ [mark]

def quoted (text : String) : String :=
  String.ofList (quotedChars text.toList)

def quotedByte (mark : Char) (byte : UInt8) : List Char :=
  let c := Char.ofNat byte.toNat
  if c = mark ∨ c = '\\' then ['\\', c]
  else if c = '\n' then ['\\', 'n']
  else if c = '\r' then ['\\', 'r']
  else if c = '\t' then ['\\', 't']
  else if 0x20 ≤ byte ∧ byte < 0x7f then [c]
  else '\\' :: 'x' :: hexDigits 2 byte.toNat

/-- Bytes between quotation marks, after the letter that tells them from text. -/
def quotedBytes (bytes : List UInt8) : String :=
  let mark := quotationMark (bytes.map fun byte => Char.ofNat byte.toNat)
  String.ofList ('b' :: mark :: bytes.flatMap (quotedByte mark) ++ [mark])

end GameLogs.Text
