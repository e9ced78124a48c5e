import GameLogs.Text.Blank
import GameLogs.Text.DecimalDigit
import GameLogs.Text.Quoted
namespace GameLogs.Text

/-! Whole numbers typed by a user.

A number has blanks around it, at most one sign, and decimal digits of any script with single
underscores between them.
-/

inductive IntegerFault where
  /-- The text does not have the form of a number. -/
  | malformed (text : String)
  /-- The number has more digits than are read. -/
  | tooLong (digits : Nat)
deriving DecidableEq, Repr

def maxDigits : Nat := 4300

/-- The greatest length at which a refused text is shown. -/
def maxShown : Nat := 200

def IntegerFault.message : IntegerFault → String
  | .malformed text =>
      "invalid literal for int() with base 10: " ++
        String.ofList ((quotedChars text.toList).take maxShown)
  | .tooLong digits =>
      s!"Exceeds the limit ({maxDigits} digits) for integer string conversion: value has " ++
        s!"{digits} digits; use sys.set_int_max_str_digits() to increase the limit"

def ofDigits (digits : List Nat) : Nat :=
  digits.foldl (fun number digit => 10 * number + digit) 0

/-- Whether underscores stand only between two other characters, and alone. -/
def underscoresBetween : List Char → Bool
  | [] => true
  | ['_'] => false
  | '_' :: '_' :: _ => false
  | _ :: rest => underscoresBetween rest

/-- Reads the digits of a number and what follows them; `text` is shown if they are refused. -/
def readDigits (text : String) (chars : List Char) : Except IntegerFault Nat :=
  let isDigitChar (c : Char) : Bool := c == '_' || (digitValue? c).isSome
  let run := chars.takeWhile isDigitChar
  let digits := run.filterMap digitValue?
  if digits = [] ∨ run.head? = some '_' ∨ !underscoresBetween run then .error (.malformed text)
  else if maxDigits < digits.length then .error (.tooLong digits.length)
  else if (chars.dropWhile isDigitChar).all isBlank then .ok (ofDigits digits)
  else .error (.malformed text)

def readInteger (text : String) : Except IntegerFault Int :=
  match text.toList.dropWhile isBlank with
  | '-' :: rest => (readDigits text rest).map fun number => -(number : Int)
  | '+' :: rest => (readDigits text rest).map Int.ofNat
  | rest => (readDigits text rest).map Int.ofNat

end GameLogs.Text
