namespace GameLogs.Text

/-! Blanks: the characters that separate words, in any script. -/

/-- The blanks other than the information separators. -/
def isBlank (c : Char) : Bool :=
  [0x09, 0x0a, 0x0b, 0x0c, 0x0d, 0x20, 0x85, 0xa0, 0x1680, 0x2028, 0x2029, 0x202f, 0x205f,
    0x3000].contains c.toNat ||
    (decide (0x2000 ≤ c.toNat) && decide (c.toNat ≤ 0x200a))

/-- All blanks; the four information separators of ASCII count too. -/
def isSpace (c : Char) : Bool :=
  isBlank c || (decide (0x1c ≤ c.toNat) && decide (c.toNat ≤ 0x1f))

/-- A blank that does not end a line. -/
def isInlineSpace (c : Char) : Bool := isSpace c && c != '\n' && c != '\r'

def trimRight (chars : List Char) : List Char :=
  (chars.reverse.dropWhile isSpace).reverse

end GameLogs.Text
