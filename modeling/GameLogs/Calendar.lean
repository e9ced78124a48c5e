import GameLogs.Text.Padding
namespace GameLogs

/-! Dates of the civil calendar, counted in milliseconds from the start of 1970. -/

/-- A moment in the calendar, without a time zone. -/
structure Moment where
  year : Int
  month : Nat
  day : Nat
  hour : Nat
  minute : Nat
  second : Nat
  millisecond : Nat
deriving DecidableEq, Repr

namespace Moment

def daysOfEra : Int := 146097

/-- The year, month and day of a day counted from the start of 1970.  Years are taken to begin in
March, so that the leap day is the last day of its year. -/
def civil (day : Int) : Int × Nat × Nat :=
  let shifted := day + 719468
  let era := shifted.fdiv daysOfEra
  let dayOfEra := (shifted.fmod daysOfEra).toNat
  let yearOfEra := (dayOfEra - dayOfEra / 1460 + dayOfEra / 36524 - dayOfEra / 146096) / 365
  let dayOfYear := dayOfEra - (365 * yearOfEra + yearOfEra / 4 - yearOfEra / 100)
  let marchMonth := (5 * dayOfYear + 2) / 153
  let month := if marchMonth < 10 then marchMonth + 3 else marchMonth - 9
  let year := era * 400 + yearOfEra + (if month ≤ 2 then 1 else 0)
  (year, month, dayOfYear - (153 * marchMonth + 2) / 5 + 1)

def ofMilliseconds (milliseconds : Int) : Moment :=
  let (year, month, day) := civil (milliseconds.fdiv 86400000)
  let rest := (milliseconds.fmod 86400000).toNat
  { year, month, day
    hour := rest / 3600000
    minute := rest / 60000 % 60
    second := rest / 1000 % 60
    millisecond := rest % 1000 }

def dateText (moment : Moment) : String :=
  s!"{Text.zeroPadded 4 moment.year.toNat}-{Text.zeroPadded 2 moment.month}-{Text.zeroPadded 2 moment.day}"

def timeText (moment : Moment) : String :=
  s!"{Text.zeroPadded 2 moment.hour}:{Text.zeroPadded 2 moment.minute}:{Text.zeroPadded 2 moment.second}"

/-- Date and time with a blank between them; parts of a second are written in microseconds. -/
def text (moment : Moment) : String :=
  let fraction :=
    if moment.millisecond = 0 then "" else s!".{Text.zeroPadded 3 moment.millisecond}000"
  moment.dateText ++ " " ++ moment.timeText ++ fraction

/-- Date and time as one word in universal time. -/
def universal (moment : Moment) : String :=
  let fraction := if moment.millisecond = 0 then "" else s!".{Text.zeroPadded 3 moment.millisecond}"
  moment.dateText ++ "T" ++ moment.timeText ++ fraction ++ "Z"

/-- The numbers of a moment, from the year down to the microsecond; zero seconds and microseconds
at the end are left out. -/
def components (moment : Moment) : List Int :=
  let minutes : List Int := [moment.year, moment.month, moment.day, moment.hour, moment.minute]
  if moment.millisecond ≠ 0 then
    minutes ++ [(moment.second : Int), (moment.millisecond * 1000 : Int)]
  else if moment.second ≠ 0 then minutes ++ [(moment.second : Int)]
  else minutes

end Moment
end GameLogs
