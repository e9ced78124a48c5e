namespace GameLogs.Text

/-! Whole numbers with separated thousands. -/

def separateThousands : List Char → List Char
  | [] => []
  | digit :: rest =>
      if rest ≠ [] ∧ rest.length % 3 = 0 then digit :: ',' :: separateThousands rest
      else digit :: separateThousands rest

/-- A whole number with its thousands separated and its sign in front. -/
def grouped (number : Int) : String :=
  let digits := String.ofList (separateThousands (Nat.toDigits 10 number.natAbs))
  if number < 0 then "-" ++ digits else digits

end GameLogs.Text
