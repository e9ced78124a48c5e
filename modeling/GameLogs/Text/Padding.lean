namespace GameLogs.Text

/-! Texts of a given width. -/

/-- Characters with others in front of them up to a width. -/
def padLeft (width : Nat) (filling : Char) (chars : List Char) : List Char :=
  List.replicate (width - chars.length) filling ++ chars

def padRight (width : Nat) (text : String) : String :=
  text ++ String.ofList (List.replicate (width - text.length) ' ')

def zeroPadded (width number : Nat) : String :=
  String.ofList (padLeft width '0' (Nat.toDigits 10 number))

/-- The lower case hexadecimal digits of a number with zeros in front up to a width. -/
def hexDigits (width number : Nat) : List Char := padLeft width '0' (Nat.toDigits 16 number)

end GameLogs.Text
