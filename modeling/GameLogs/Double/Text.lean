import GameLogs.Double.Shortest
import GameLogs.Text.Padding
namespace GameLogs.Double

/-! The text of floating point numbers. -/

structure Layout where
  /-- Numbers whose leading digit has an exponent from here on are written positionally. -/
  positionalFrom : Int
  /-- The last exponent that is written positionally. -/
  positionalTo : Int
  wholeEnding : String
  /-- The least number of digits of a written exponent. -/
  exponentWidth : Nat

/-- Numbers from one tenthousandth up to sixteen digits before the point are positional, a whole
number ends in `.0`, and an exponent has a sign and at least two digits. -/
def documentLayout : Layout where
  positionalFrom := -4
  positionalTo := 15
  wholeEnding := ".0"
  exponentWidth := 2

private def zeros (count : Nat) : String := String.ofList (List.replicate count '0')

/-- Lays out digits whose leading one has the exponent `leading`. -/
def Layout.render (layout : Layout) (decimal : Decimal) : String :=
  let digits := Nat.toDigits 10 decimal.digits
  let leading := decimal.scale + digits.length - 1
  let text (chars : List Char) : String := String.ofList chars
  if layout.positionalFrom ≤ leading ∧ leading ≤ layout.positionalTo then
    if leading < 0 then "0." ++ zeros (-leading - 1).toNat ++ text digits
    else
      let whole := leading.toNat + 1
      if digits.length ≤ whole then
        text digits ++ zeros (whole - digits.length) ++ layout.wholeEnding
      else text (digits.take whole) ++ "." ++ text (digits.drop whole)
  else
    let rest := digits.drop 1
    text (digits.take 1) ++ (if rest = [] then "" else "." ++ text rest) ++
      (if leading < 0 then "e-" else "e+") ++
      Text.zeroPadded layout.exponentWidth leading.natAbs

/-- The text of a number: the fewest digits that read back. -/
def text (d : Double) : String :=
  let sign := if d.negative then "-" else ""
  if d.isNaN then "nan"
  else if d.isInfinite then sign ++ "inf"
  else if d.significand = 0 then sign ++ "0" ++ documentLayout.wholeEnding
  else sign ++ documentLayout.render d.shortest

/-- The parts of an unsigned decimal text: its digits and its power of ten. -/
def readDecimal? (chars : List Char) : Option Decimal :=
  let isDigit (c : Char) : Bool := decide ('0' ≤ c) && decide (c ≤ '9')
  let number (digits : List Char) : Nat :=
    digits.foldl (fun total c => 10 * total + (c.toNat - '0'.toNat)) 0
  let whole := chars.takeWhile isDigit
  let afterWhole := chars.dropWhile isDigit
  let (places, afterPlaces) := match afterWhole with
    | '.' :: rest => (rest.takeWhile isDigit, rest.dropWhile isDigit)
    | rest => ([], rest)
  let exponent? : Option Int := match afterPlaces with
    | [] => some 0
    | 'e' :: '-' :: rest =>
        if rest ≠ [] ∧ rest.all isDigit then some (-(number rest : Int)) else none
    | 'e' :: '+' :: rest =>
        if rest ≠ [] ∧ rest.all isDigit then some (number rest : Int) else none
    | 'e' :: rest => if rest ≠ [] ∧ rest.all isDigit then some (number rest : Int) else none
    | _ => none
  if whole = [] then none
  else exponent?.map fun exponent => ⟨number (whole ++ places), exponent - places.length⟩

def ofText? (text : String) : Option Double :=
  let unsigned (negative : Bool) (chars : List Char) : Option Double :=
    if chars = ['i', 'n', 'f'] then some (infinity negative)
    else if chars = ['n', 'a', 'n'] then some nan
    else (readDecimal? chars).map fun decimal => ofDecimal negative decimal.digits decimal.scale
  match text.toList with
  | '-' :: rest => unsigned true rest
  | chars => unsigned false chars

end GameLogs.Double
