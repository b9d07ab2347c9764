import NamingDirectory.Date.Calendar

/-!
The text of a date and time, with the fewest of 3, 6 or 9 fraction digits that are exact.
-/

namespace NamingDirectory

namespace DateTime

/-- A number with at least `width` digits, padded with zeros. -/
def padded (width : Nat) (n : Nat) : String :=
  let digits := toString n
  String.ofList (List.replicate (width - digits.length) '0') ++ digits

/-- The year: four digits within 0 to 9999, otherwise a sign and at least four digits. -/
def yearText (year : Int) : String :=
  if 0 ≤ year && year ≤ 9999 then padded 4 year.toNat
  else (if year < 0 then "-" else "+") ++ padded 4 year.natAbs

/-- The date part. -/
def dateText (t : DateTime) : String :=
  yearText t.year ++ "-" ++ padded 2 t.month ++ "-" ++ padded 2 t.day

/-- The time part with its fraction. -/
def timeText (t : DateTime) : String :=
  let (nano, second) :=
    if t.nanosecond ≥ 1000000000 then (t.nanosecond - 1000000000, t.second + 1)
    else (t.nanosecond, t.second)
  let fraction :=
    if nano == 0 then ""
    else if nano % 1000000 == 0 then "." ++ padded 3 (nano / 1000000)
    else if nano % 1000 == 0 then "." ++ padded 6 (nano / 1000)
    else "." ++ padded 9 nano
  padded 2 t.hour ++ ":" ++ padded 2 t.minute ++ ":" ++ padded 2 second ++ fraction

/-- Date and time separated by a blank. -/
def text (t : DateTime) : String := t.dateText ++ " " ++ t.timeText

/-- Date and time separated by `T`. -/
def isoText (t : DateTime) : String := t.dateText ++ "T" ++ t.timeText

/-- A date and time when every part is in range, a second or more of nanoseconds only at second 59. -/
def make? (year : Int) (month day hour minute second nanosecond : Nat) : Option DateTime :=
  if Calendar.isValidDate year month day && hour < 24 && minute < 60 && second < 60 &&
      (nanosecond < 1000000000 || (second == 59 && nanosecond < 2000000000)) then
    some ⟨year, month, day, hour, minute, second, nanosecond⟩
  else none

end DateTime

end NamingDirectory
