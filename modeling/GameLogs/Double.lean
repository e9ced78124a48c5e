import GameLogs.Rounding
namespace GameLogs

/-! Binary floating point numbers of 64 bits.

A number is its bits, and its exact value is a significand times a power of two.  All reading and
rounding is done with whole numbers.
-/

/-- A floating point number, told apart from others by its bits. -/
structure Double where
  bits : UInt64
deriving DecidableEq, Repr, Inhabited

namespace Double

/-- The place of the sign among the bits. -/
def signPlace : Nat := Nat.pow 2 63

/-- The place of the lowest bit of the exponent. -/
def exponentPlace : Nat := Nat.pow 2 52

/-- The exponent field of infinities and of what is no number. -/
def specialExponent : Nat := 2047

def negative (d : Double) : Bool := decide (signPlace ≤ d.bits.toNat)

def biased (d : Double) : Nat := d.bits.toNat / exponentPlace % 2048

def fraction (d : Double) : Nat := d.bits.toNat % exponentPlace

def isFinite (d : Double) : Bool := d.biased != specialExponent

def isNaN (d : Double) : Bool := !d.isFinite && d.fraction != 0

def isInfinite (d : Double) : Bool := !d.isFinite && d.fraction == 0

/-- The whole number whose product with `2 ^ exponent` is the size of a finite number. -/
def significand (d : Double) : Nat :=
  if d.biased = 0 then d.fraction else exponentPlace + d.fraction

def exponent (d : Double) : Int := (max d.biased 1 : Nat) - 1075

def ratio (d : Double) : Nat × Nat :=
  if 0 ≤ d.exponent then (d.significand * Nat.pow 2 d.exponent.toNat, 1)
  else (d.significand, Nat.pow 2 (-d.exponent).toNat)

def toRat (d : Double) : Rat :=
  let size := mkRat d.ratio.1 d.ratio.2
  if d.negative then -size else size

private def assemble (negative : Bool) (biased fraction : Nat) : Double :=
  ⟨UInt64.ofNat ((if negative then signPlace else 0) + biased * exponentPlace + fraction)⟩

def nan : Double := assemble false specialExponent (Nat.pow 2 51)

def infinity (negative : Bool) : Double := assemble negative specialExponent 0

/-- The number nearest to `numerator / denominator`, of two equally near ones the one with the even
significand.  The exponent is estimated from the lengths of both numbers and corrected by one. -/
def nearest (negative : Bool) (numerator denominator : Nat) : Double :=
  if numerator = 0 then assemble negative 0 0 else
  let scaled (exponent : Int) : Nat × Nat :=
    if 0 ≤ exponent then (numerator, denominator * Nat.pow 2 exponent.toNat)
    else (numerator * Nat.pow 2 (-exponent).toNat, denominator)
  let estimate : Int := (numerator.log2 : Int) - denominator.log2 - 52
  let pair := scaled estimate
  let exact := if pair.1 < exponentPlace * pair.2 then estimate - 1 else estimate
  let exponent := max exact (-1074)
  let pair := scaled exponent
  let rounded := roundedQuotient pair.1 pair.2
  if rounded < exponentPlace then assemble negative 0 rounded
  else
    let biased := (exponent + 1075).toNat
    let carried := biased + (rounded - exponentPlace) / exponentPlace
    if specialExponent ≤ carried then infinity negative
    else assemble negative carried (rounded % exponentPlace)

/-- The number nearest to `digits * 10 ^ scale`. -/
def ofDecimal (negative : Bool) (digits : Nat) (scale : Int) : Double :=
  if 0 ≤ scale then nearest negative (digits * Nat.pow 10 scale.toNat) 1
  else nearest negative digits (Nat.pow 10 (-scale).toNat)

end Double
end GameLogs
