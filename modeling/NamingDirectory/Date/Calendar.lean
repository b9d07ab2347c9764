/-!
The proleptic Gregorian calendar for years -262143 to 262142.
-/

namespace NamingDirectory

/-- A date and time of day without a zone; a leap second has a nanosecond count of a second or more. -/
structure DateTime where
  year : Int
  month : Nat
  day : Nat
  hour : Nat
  minute : Nat
  second : Nat
  nanosecond : Nat
  deriving Repr, Inhabited, DecidableEq

namespace Calendar

/-- The first and last supported years. -/
def minYear : Int := -262143
def maxYear : Int := 262142

/-- Leap years: divisible by 4, except centuries not divisible by 400. -/
def isLeap (year : Int) : Bool := (year % 4 == 0 && year % 100 != 0) || year % 400 == 0

/-- The number of days of a month (0 outside 1 to 12). -/
def daysInMonth (year : Int) (month : Nat) : Nat :=
  match month with
  | 1 => 31 | 2 => if isLeap year then 29 else 28 | 3 => 31 | 4 => 30 | 5 => 31 | 6 => 30
  | 7 => 31 | 8 => 31 | 9 => 30 | 10 => 31 | 11 => 30 | 12 => 31 | _ => 0

/-- The number of days of a year. -/
def daysInYear (year : Int) : Nat := if isLeap year then 366 else 365

/-- Whether year, month and day form a supported date. -/
def isValidDate (year : Int) (month day : Nat) : Bool :=
  minYear ≤ year && year ≤ maxYear && 1 ≤ month && month ≤ 12 && 1 ≤ day &&
    day ≤ daysInMonth year month

/-- The day of the year, from 1. -/
def ordinal (year : Int) (month day : Nat) : Nat :=
  ((List.range (month - 1)).map fun k => daysInMonth year (k + 1)).foldl (· + ·) 0 + day

/-- Month and day of a day of the year, when it exists. -/
def ofOrdinal? (year : Int) (ordinalDay : Nat) : Option (Nat × Nat) :=
  if ordinalDay < 1 || ordinalDay > daysInYear year then none
  else
    let rec go : Nat → Nat → Nat → Option (Nat × Nat)
      | 0, _, _ => none
      | fuel + 1, month, rest =>
        let len := daysInMonth year month
        if rest ≤ len then some (month, rest) else go fuel (month + 1) (rest - len)
    go 12 1 ordinalDay

/-- Days from 1970-01-01 to the date (negative before it). -/
def daysFromEpoch (year : Int) (month day : Nat) : Int :=
  let y := if month ≤ 2 then year - 1 else year
  let era := y / 400
  let yoe := y - era * 400
  let m : Int := Int.ofNat month
  let mp := if m > 2 then m - 3 else m + 9
  let doy := (153 * mp + 2) / 5 + Int.ofNat day - 1
  let doe := yoe * 365 + yoe / 4 - yoe / 100 + doy
  era * 146097 + doe - 719468

/-- The date of a day count from 1970-01-01. -/
def ofEpochDays (days : Int) : Int × Nat × Nat :=
  let z := days + 719468
  let era := z / 146097
  let doe := z - era * 146097
  let yoe := (doe - doe / 1460 + doe / 36524 - doe / 146096) / 365
  let y := yoe + era * 400
  let doy := doe - (365 * yoe + yoe / 4 - yoe / 100)
  let mp := (5 * doy + 2) / 153
  let d := doy - (153 * mp + 2) / 5 + 1
  let m := if mp < 10 then mp + 3 else mp - 9
  ((if m ≤ 2 then y + 1 else y), m.toNat, d.toNat)

/-- The weekday counted from Monday as 0. -/
def weekdayFromMonday (year : Int) (month day : Nat) : Nat :=
  -- 1970-01-01 was a Thursday.
  ((daysFromEpoch year month day + 3) % 7).toNat

/-- The week number counting weeks that start on the given weekday (0 Monday); days before are week 0. -/
def weeksFrom (year : Int) (month day : Nat) (startFromMonday : Nat) : Nat :=
  let wd := weekdayFromMonday year month day
  let daysSinceStart := (wd + 7 - startFromMonday) % 7
  (ordinal year month day + 6 - daysSinceStart) / 7

/-- The ISO week-numbering year and week of a date. -/
def isoWeek (year : Int) (month day : Nat) : Int × Nat :=
  let ord := Int.ofNat (ordinal year month day)
  let wd := Int.ofNat (weekdayFromMonday year month day)
  let week := (ord - wd + 9) / 7
  if week < 1 then
    let prev := year - 1
    let lastOrd := Int.ofNat (daysInYear prev)
    let lastWd := Int.ofNat (weekdayFromMonday prev 12 31)
    (prev, ((lastOrd - lastWd + 9) / 7).toNat)
  else
    let weeksInYear :=
      let jan1 := weekdayFromMonday year 1 1
      if jan1 == 3 || (jan1 == 2 && isLeap year) then 53 else 52
    if week > weeksInYear then (year + 1, 1) else (year, week.toNat)

end Calendar

end NamingDirectory
