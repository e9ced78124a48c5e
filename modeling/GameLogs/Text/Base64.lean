namespace GameLogs.Text

/-! Bytes as printable text, six bits to a letter. -/

def sextetLetter (sextet : Nat) : Char :=
  if sextet < 26 then Char.ofNat ('A'.toNat + sextet)
  else if sextet < 52 then Char.ofNat ('a'.toNat + (sextet - 26))
  else if sextet < 62 then Char.ofNat ('0'.toNat + (sextet - 52))
  else if sextet = 62 then '+' else '/'

def letterSextet? (c : Char) : Option Nat :=
  if 'A' ≤ c ∧ c ≤ 'Z' then some (c.toNat - 'A'.toNat)
  else if 'a' ≤ c ∧ c ≤ 'z' then some (c.toNat - 'a'.toNat + 26)
  else if '0' ≤ c ∧ c ≤ '9' then some (c.toNat - '0'.toNat + 52)
  else if c = '+' then some 62
  else if c = '/' then some 63
  else none

/-- The letters of some bytes, three bytes to four letters; `=` fills up the last group. -/
def base64Chars : List UInt8 → List Char
  | [] => []
  | [a] =>
      [sextetLetter (a.toNat / 4), sextetLetter (a.toNat % 4 * 16), '=', '=']
  | [a, b] =>
      [sextetLetter (a.toNat / 4), sextetLetter (a.toNat % 4 * 16 + b.toNat / 16),
        sextetLetter (b.toNat % 16 * 4), '=']
  | a :: b :: c :: rest =>
      sextetLetter (a.toNat / 4) :: sextetLetter (a.toNat % 4 * 16 + b.toNat / 16) ::
        sextetLetter (b.toNat % 16 * 4 + c.toNat / 64) :: sextetLetter (c.toNat % 64) ::
        base64Chars rest

/-- The bytes of a row of six bit numbers; a rest of fewer than eight bits is dropped. -/
def bytesOfSextets : List Nat → List UInt8
  | a :: b :: c :: d :: rest =>
      UInt8.ofNat (a * 4 + b / 16) :: UInt8.ofNat (b % 16 * 16 + c / 4) ::
        UInt8.ofNat (c % 4 * 64 + d) :: bytesOfSextets rest
  | [a, b, c] => [UInt8.ofNat (a * 4 + b / 16), UInt8.ofNat (b % 16 * 16 + c / 4)]
  | [a, b] => [UInt8.ofNat (a * 4 + b / 16)]
  | _ => []

def base64 (bytes : List UInt8) : String :=
  String.ofList (base64Chars bytes)

/-- The bytes that a text stands for; what is no letter of the alphabet is skipped. -/
def ofBase64 (text : String) : List UInt8 :=
  bytesOfSextets (text.toList.filterMap letterSextet?)

end GameLogs.Text
