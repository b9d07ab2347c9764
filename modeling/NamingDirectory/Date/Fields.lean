import NamingDirectory.Date.Calendar

/-!
The fields read from a date text, and their resolution into a date and a time.
-/

namespace NamingDirectory

namespace DatePattern

/-- Why fields do not resolve. -/
inductive ResolveError where
  | notEnough
  | outOfRange
  | impossible
  deriving Repr, Inhabited, DecidableEq

/-- The fields read so far. Weekdays count from Monday as 0. -/
structure Fields where
  year : Option Int := none
  yearDiv100 : Option Int := none
  yearMod100 : Option Int := none
  isoYear : Option Int := none
  isoYearDiv100 : Option Int := none
  isoYearMod100 : Option Int := none
  month : Option Nat := none
  weekFromSun : Option Nat := none
  weekFromMon : Option Nat := none
  isoWeek : Option Nat := none
  weekday : Option Nat := none
  ordinal : Option Nat := none
  quarter : Option Nat := none
  day : Option Nat := none
  hourDiv12 : Option Nat := none
  hourMod12 : Option Nat := none
  minute : Option Nat := none
  second : Option Nat := none
  nanosecond : Option Nat := none
  timestamp : Option Int := none
  offset : Option Int := none
  deriving Repr, Inhabited

/-- Sets a field unless it holds another value. -/
def setField {α : Type} [BEq α] (current : Option α) (value : α) : Except ResolveError (Option α) :=
  match current with
  | some old => if old == value then .ok (some value) else .error .impossible
  | none => .ok (some value)

/-- Completes a year from a full year, a century and a year of the century. -/
def resolveYear (full century within : Option Int) : Except ResolveError (Option Int) :=
  match full, century, within with
  | y, none, none => .ok y
  | some y, q, r =>
    match r with
    | some r => if r < 0 || r > 99 then .error .outOfRange
      else if y < 0 then .error .impossible
      else if q.getD (y / 100) == y / 100 && r == y % 100 then .ok (some y) else .error .impossible
    | none =>
      if y < 0 then .error .impossible
      else if q.getD (y / 100) == y / 100 then .ok (some y) else .error .impossible
  | none, some q, some r =>
    if r < 0 || r > 99 then .error .outOfRange
    else if q < 0 then .error .impossible
    else .ok (some (q * 100 + r))
  | none, none, some r =>
    if r < 0 || r > 99 then .error .outOfRange
    else .ok (some (r + if r < 70 then 2000 else 1900))
  | none, some _, none => .error .notEnough

/-- The date of a year, a week counted from the first `start` weekday, and a weekday. -/
def weekDate? (year : Int) (week weekday startFromMonday : Nat) : Option (Int × Nat × Nat) :=
  let jan1 := Calendar.weekdayFromMonday year 1 1
  let firstStart : Int := 1 + Int.ofNat ((startFromMonday + 7 - jan1) % 7)
  let offset := (weekday + 7 - startFromMonday) % 7
  let ord : Int := firstStart + (Int.ofNat week - 1) * 7 + Int.ofNat offset
  if ord < 1 || ord > Int.ofNat (Calendar.daysInYear year) then none
  else (Calendar.ofOrdinal? year ord.toNat).map fun (m, d) => (year, m, d)

/-- The date of an ISO year, week and weekday. -/
def isoWeekDate? (isoYear : Int) (week weekday : Nat) : Option (Int × Nat × Nat) :=
  let jan4 := Calendar.weekdayFromMonday isoYear 1 4
  let days : Int := Calendar.daysFromEpoch isoYear 1 4 - Int.ofNat jan4 +
    (Int.ofNat week - 1) * 7 + Int.ofNat weekday
  let (y, m, d) := Calendar.ofEpochDays days
  let weeks := (Calendar.isoWeek isoYear 12 28).2
  if week < 1 || week > weeks || weekday > 6 || !Calendar.isValidDate y m d then none
  else some (y, m, d)

namespace Fields

/-- Whether the date agrees with the year, month and day fields. -/
def agreesYmd (f : Fields) (y : Int) (m d : Nat) : Bool :=
  let (q, r) := if y ≥ 0 then (some (y / 100), some (y % 100)) else (none, none)
  f.year.getD y == y && (f.yearDiv100.orElse fun _ => q) == q &&
    (f.yearMod100.orElse fun _ => r) == r && f.month.getD m == m && f.day.getD d == d

/-- Whether the date agrees with the ISO week fields and the weekday. -/
def agreesIso (f : Fields) (y : Int) (m d : Nat) : Bool :=
  let (iy, iw) := Calendar.isoWeek y m d
  let wd := Calendar.weekdayFromMonday y m d
  let (q, r) := if iy ≥ 0 then (some (iy / 100), some (iy % 100)) else (none, none)
  f.isoYear.getD iy == iy && (f.isoYearDiv100.orElse fun _ => q) == q &&
    (f.isoYearMod100.orElse fun _ => r) == r && f.isoWeek.getD iw == iw &&
    f.weekday.getD wd == wd

/-- Whether the date agrees with the day of the year and the week numbers. -/
def agreesOrdinal (f : Fields) (y : Int) (m d : Nat) : Bool :=
  f.ordinal.getD (Calendar.ordinal y m d) == Calendar.ordinal y m d &&
    f.weekFromSun.getD (Calendar.weeksFrom y m d 6) == Calendar.weeksFrom y m d 6 &&
    f.weekFromMon.getD (Calendar.weeksFrom y m d 0) == Calendar.weeksFrom y m d 0

/-- The date the fields give. -/
def toDate (f : Fields) : Except ResolveError (Int × Nat × Nat) := do
  let year ← resolveYear f.year f.yearDiv100 f.yearMod100
  let isoYear ← resolveYear f.isoYear f.isoYearDiv100 f.isoYearMod100
  let check := fun (date : Option (Int × Nat × Nat)) (ok : Int → Nat → Nat → Bool) =>
    match date with
    | none => Except.error ResolveError.outOfRange
    | some (y, m, d) => if ok y m d then .ok (y, m, d) else .error .impossible
  let (y, m, d) ← match year, isoYear with
  | some y, _ =>
    match f.month, f.day, f.ordinal, f.weekFromSun, f.weekFromMon, f.weekday with
    | some m, some d, _, _, _, _ =>
      check (if Calendar.isValidDate y m d then some (y, m, d) else none)
        fun y m d => f.agreesIso y m d && f.agreesOrdinal y m d
    | _, _, some o, _, _, _ =>
      check ((Calendar.ofOrdinal? y o).bind fun (m, d) =>
          if Calendar.isValidDate y m d then some (y, m, d) else none)
        fun y m d => f.agreesYmd y m d && f.agreesIso y m d && f.agreesOrdinal y m d
    | _, _, _, some w, _, some wd =>
      check (weekDate? y w wd 6)
        fun y m d => f.agreesYmd y m d && f.agreesIso y m d && f.agreesOrdinal y m d
    | _, _, _, _, some w, some wd =>
      check (weekDate? y w wd 0)
        fun y m d => f.agreesYmd y m d && f.agreesIso y m d && f.agreesOrdinal y m d
    | _, _, _, _, _, _ =>
      match isoYear, f.isoWeek, f.weekday with
      | some iy, some iw, some wd =>
        check (isoWeekDate? iy iw wd) fun y m d => f.agreesYmd y m d && f.agreesOrdinal y m d
      | _, _, _ => .error .notEnough
  | none, some iy =>
    match f.isoWeek, f.weekday with
    | some iw, some wd =>
      check (isoWeekDate? iy iw wd) fun y m d => f.agreesYmd y m d && f.agreesOrdinal y m d
    | _, _ => .error .notEnough
  | none, none => .error .notEnough
  if f.quarter.getD ((m - 1) / 3 + 1) != (m - 1) / 3 + 1 then .error .impossible
  return (y, m, d)

/-- The time of day the fields give, as hour, minute, second and nanosecond. -/
def toTime (f : Fields) : Except ResolveError (Nat × Nat × Nat × Nat) := do
  let some hourDiv12 := f.hourDiv12 | .error .notEnough
  let some hourMod12 := f.hourMod12 | .error .notEnough
  if hourDiv12 > 1 || hourMod12 > 11 then .error .outOfRange
  let some minute := f.minute | .error .notEnough
  if minute > 59 then .error .outOfRange
  let (second, nano) ← match f.second.getD 0 with
    | 60 => pure (59, 1000000000)
    | s => if s ≤ 59 then pure (s, 0) else .error .outOfRange
  let nano ← match f.nanosecond with
    | some v =>
      if v > 999999999 then .error .outOfRange
      else if f.second.isNone then .error .notEnough
      else pure (nano + v)
    | none => pure nano
  if nano ≥ 1000000000 && second != 59 then .error .outOfRange
  return (hourDiv12 * 12 + hourMod12, minute, second, nano)

/-- Seconds since 1970 of a date and time. -/
def epochSeconds (y : Int) (m d hour minute second : Nat) : Int :=
  Calendar.daysFromEpoch y m d * 86400 + Int.ofNat (hour * 3600 + minute * 60 + second)

/-- Sets the hour, splitting it into half of the day and hour within it. -/
def withHour (f : Fields) (hour : Nat) : Except ResolveError Fields := do
  let div ← setField f.hourDiv12 (hour / 12)
  let rem ← setField f.hourMod12 (hour % 12)
  return { f with hourDiv12 := div, hourMod12 := rem }

/-- The date and time the fields give. -/
def toDateTime (f : Fields) : Except ResolveError DateTime :=
  match f.toDate, f.toTime with
  | .ok (y, m, d), .ok (hour, minute, second, nano) =>
    let stamp := epochSeconds y m d hour minute second
    match f.timestamp with
    | some given =>
      if given != stamp && !(nano ≥ 1000000000 && given == stamp + 1) then .error .impossible
      else .ok ⟨y, m, d, hour, minute, second, nano⟩
    | none => .ok ⟨y, m, d, hour, minute, second, nano⟩
  | date, time =>
    match f.timestamp with
    | none =>
      match date, time with
      | .error e, _ => .error e
      | _, .error e => .error e
      | _, _ => .error .notEnough
    | some stamp =>
      let failed := fun (kind : ResolveError) =>
        (match date with | .error e => e == kind | _ => false) ||
        (match time with | .error e => e == kind | _ => false)
      if failed .outOfRange then .error .outOfRange
      else if failed .impossible then .error .impossible
      else
        let (y, m, d) := Calendar.ofEpochDays (stamp / 86400)
        if !Calendar.isValidDate y m d then .error .outOfRange
        else do
          -- A leap second read with the count of seconds may name the minute's last second or the next.
          let leap := f.second == some 60
          if leap && stamp % 60 != 59 && stamp % 60 != 0 then .error .impossible
          let stamp := if leap && stamp % 60 == 0 then stamp - 1 else stamp
          let (y, m, d) := Calendar.ofEpochDays (stamp / 86400)
          let secs := (stamp % 86400).toNat
          let f ← if leap then pure f else do
              let s ← setField f.second (secs % 60)
              pure { f with second := s }
          let year ← setField f.year y
          let ord ← setField f.ordinal (Calendar.ordinal y m d)
          let f := { f with year := year, ordinal := ord }
          let f ← f.withHour (secs / 3600)
          let minute ← setField f.minute (secs / 60 % 60)
          let f := { f with minute := minute }
          let (y, m, d) ← f.toDate
          let (hour, minute, second, nano) ← f.toTime
          return ⟨y, m, d, hour, minute, second, nano⟩

end Fields

end DatePattern

end NamingDirectory
