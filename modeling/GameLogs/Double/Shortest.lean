import GameLogs.Double
namespace GameLogs.Double

/-! The fewest decimal digits that read back.

On the decimal grid of one digit, two digits and so on, the two neighbours of a number are read
back.  The first grid with a neighbour that is read as the same number gives the digits.
-/

/-- A positive decimal number: `digits` times the power of ten `scale`. -/
structure Decimal where
  digits : Nat
  scale : Int
deriving DecidableEq, Repr, Inhabited

def leadingExponent (numerator denominator : Nat) : Int :=
  if denominator ≤ numerator then ((Nat.toDigits 10 (numerator / denominator)).length : Int) - 1
  else -((Nat.toDigits 10 ((denominator + numerator - 1) / numerator - 1)).length : Int)

/-- The greatest multiple of `10 ^ scale` that is not above the fraction, and twice the distance to
it compared with the grid's width. -/
def gridBelow (numerator denominator : Nat) (scale : Int) : Nat × Ordering :=
  let width := if 0 ≤ scale then denominator * Nat.pow 10 scale.toNat else denominator
  let scaled := if 0 ≤ scale then numerator else numerator * Nat.pow 10 (-scale).toNat
  (scaled / width, compare (2 * (scaled % width)) width)

/-- The neighbour on the grid of `count` digits that is read back as the number; of two such
neighbours the nearer, and of two equally near ones the even one. -/
def shortestOn? (size : Double) (numerator denominator : Nat) (leading : Int) (count : Nat) :
    Option Decimal :=
  let scale := leading + 1 - count
  let (below, side) := gridBelow numerator denominator scale
  let readsBack (digits : Nat) : Bool := decide (ofDecimal false digits scale = size)
  match readsBack below, readsBack (below + 1) with
  | true, true =>
      let nearer := match side with
        | .lt => below
        | .gt => below + 1
        | .eq => if below % 2 = 0 then below else below + 1
      some ⟨nearer, scale⟩
  | true, false => some ⟨below, scale⟩
  | false, true => some ⟨below + 1, scale⟩
  | false, false => none

/-- Drops the zeros at the end of a number's digits; `fuel` bounds their count. -/
def Decimal.trimmed : Nat → Decimal → Decimal
  | 0, decimal => decimal
  | fuel + 1, decimal =>
      if decimal.digits ≠ 0 ∧ decimal.digits % 10 = 0 then
        trimmed fuel ⟨decimal.digits / 10, decimal.scale + 1⟩
      else decimal

/-- The fewest digits that are read back as the size of a finite number other than zero. -/
def shortest (d : Double) : Decimal :=
  let (numerator, denominator) := d.ratio
  let size : Double := nearest false numerator denominator
  let leading := leadingExponent numerator denominator
  let found := (List.range 17).findSome? fun count =>
    shortestOn? size numerator denominator leading (count + 1)
  let exact : Decimal := ⟨numerator * Nat.pow 10 1074 / denominator, -1074⟩
  (found.getD exact).trimmed 400

end GameLogs.Double
