import NamingDirectory.Date.Calendar
import NamingDirectory.Unicode.WhiteSpace

/-!
Date patterns of `%` specifiers, cut into the items a text is matched against.
-/

namespace NamingDirectory

namespace DatePattern

open NamingDirectory.Unicode

/-- A numeric field of a pattern. -/
inductive NumericField where
  | year | yearDiv100 | yearMod100 | isoYear | isoYearDiv100 | isoYearMod100
  | month | day | weekFromSun | weekFromMon | isoWeek | numDaysFromSun | weekdayFromMon
  | ordinal | quarter | hour | hour12 | minute | second | nanosecond | timestamp
  deriving Repr, Inhabited, DecidableEq

/-- One item of a pattern. -/
inductive Item where
  | literal (text : List Char)
  | space (text : List Char)
  | numeric (field : NumericField)
  | monthName (long : Bool)
  | weekdayName (long : Bool)
  | ampm
  /-- An optional fraction after a point: any digits, of which nine count, or exactly `digits` digits. -/
  | dotFraction (digits : Option Nat)
  /-- A fraction of exactly this many digits, without a point. -/
  | digitsFraction (count : Nat)
  | zoneName
  /-- A zone offset of a sign, hours and minutes; a permissive one also takes `Z` or hours alone. -/
  | zoneOffset (permissive : Bool)
  /-- The letter `T` or `t`, or a blank, between a date and a time. -/
  | dateTimeSeparator
  /-- After optional blanks, `UTC` in any case, `Z`, or a zone offset with minutes. -/
  | utcOffset
  | invalid
  deriving Repr, Inhabited, DecidableEq

/-- The items of a shorthand specifier. -/
def shorthand? : Char → Option (List Item)
  | 'D' => some [.numeric .month, .literal ['/'], .numeric .day, .literal ['/'], .numeric .yearMod100]
  | 'x' => some [.numeric .month, .literal ['/'], .numeric .day, .literal ['/'], .numeric .yearMod100]
  | 'F' => some [.numeric .year, .literal ['-'], .numeric .month, .literal ['-'], .numeric .day]
  | 'v' => some [.numeric .day, .literal ['-'], .monthName false, .literal ['-'], .numeric .year]
  | 'R' => some [.numeric .hour, .literal [':'], .numeric .minute]
  | 'T' => some [.numeric .hour, .literal [':'], .numeric .minute, .literal [':'], .numeric .second]
  | 'X' => some [.numeric .hour, .literal [':'], .numeric .minute, .literal [':'], .numeric .second]
  | 'r' => some [.numeric .hour12, .literal [':'], .numeric .minute, .literal [':'],
      .numeric .second, .space [' '], .ampm]
  | 'c' => some [.weekdayName false, .space [' '], .monthName false, .space [' '],
      .numeric .day, .space [' '], .numeric .hour, .literal [':'], .numeric .minute,
      .literal [':'], .numeric .second, .space [' '], .numeric .year]
  | '+' => some [.numeric .year, .space [], .literal ['-'], .numeric .month, .space [],
      .literal ['-'], .numeric .day, .dateTimeSeparator, .numeric .hour, .space [],
      .literal [':'], .numeric .minute, .space [], .literal [':'], .numeric .second,
      .dotFraction none, .utcOffset]
  | _ => none

/-- The single item of a specifier letter. -/
def single? : Char → Option Item
  | 'A' => some (.weekdayName true)
  | 'B' => some (.monthName true)
  | 'C' => some (.numeric .yearDiv100)
  | 'G' => some (.numeric .isoYear)
  | 'H' => some (.numeric .hour)
  | 'I' => some (.numeric .hour12)
  | 'M' => some (.numeric .minute)
  | 'P' => some .ampm
  | 'S' => some (.numeric .second)
  | 'U' => some (.numeric .weekFromSun)
  | 'V' => some (.numeric .isoWeek)
  | 'W' => some (.numeric .weekFromMon)
  | 'Y' => some (.numeric .year)
  | 'Z' => some .zoneName
  | 'a' => some (.weekdayName false)
  | 'b' => some (.monthName false)
  | 'h' => some (.monthName false)
  | 'd' => some (.numeric .day)
  | 'e' => some (.numeric .day)
  | 'f' => some (.numeric .nanosecond)
  | 'g' => some (.numeric .isoYearMod100)
  | 'j' => some (.numeric .ordinal)
  | 'k' => some (.numeric .hour)
  | 'l' => some (.numeric .hour12)
  | 'm' => some (.numeric .month)
  | 'n' => some (.space ['\n'])
  | 'p' => some .ampm
  | 'q' => some (.numeric .quarter)
  | 's' => some (.numeric .timestamp)
  | 't' => some (.space ['\t'])
  | 'u' => some (.numeric .weekdayFromMon)
  | 'w' => some (.numeric .numDaysFromSun)
  | 'y' => some (.numeric .yearMod100)
  | 'z' => some (.zoneOffset false)
  | '%' => some (.literal ['%'])
  | _ => none

/-- Reads the specifier after a `%`: the items it stands for and the rest of the pattern. -/
def specifier (rest : List Char) : List Item × List Char :=
  let (padded, rest) := match rest with
    | c :: more => if c == '-' || c == '0' || c == '_' then (true, more) else (false, rest)
    | [] => (false, rest)
  let (alternate, rest) := match rest with
    | '#' :: more => if padded then (false, rest) else (true, more)
    | _ => (false, rest)
  match rest with
  | [] => ([.invalid], [])
  | spec :: more =>
    if alternate then
      if spec == 'z' then ([.zoneOffset true], more) else ([.invalid], more)
    else
      let (items, more) : List Item × List Char :=
        match spec, more with
        | '.', '3' :: 'f' :: after => ([.dotFraction (some 3)], after)
        | '.', '6' :: 'f' :: after => ([.dotFraction (some 6)], after)
        | '.', '9' :: 'f' :: after => ([.dotFraction (some 9)], after)
        | '.', 'f' :: after => ([.dotFraction none], after)
        | '.', _ => ([.invalid], more.drop 2)
        | '3', 'f' :: after => ([.digitsFraction 3], after)
        | '6', 'f' :: after => ([.digitsFraction 6], after)
        | '9', 'f' :: after => ([.digitsFraction 9], after)
        | ':', ':' :: ':' :: 'z' :: after => ([.zoneOffset false], after)
        | ':', ':' :: 'z' :: after => ([.zoneOffset false], after)
        | ':', 'z' :: after => ([.zoneOffset false], after)
        | c, _ =>
          match single? c with
          | some item => ([item], more)
          | none =>
            match shorthand? c with
            | some items => (items, more)
            | none => ([.invalid], more)
      if padded then
        match items with
        | [.numeric field] => ([.numeric field], more)
        | _ => ([.invalid], more)
      else (items, more)

/-- Cuts a pattern into items; each step uses at least one character. -/
def items (pattern : List Char) : List Item :=
  go (pattern.length + 1) pattern
where
  go : Nat → List Char → List Item
    | 0, _ => []
    | _, [] => []
    | fuel + 1, '%' :: rest =>
      let (found, more) := specifier rest
      found ++ go fuel more
    | fuel + 1, c :: rest =>
      if isWhiteSpace c then
        .space ((c :: rest).takeWhile isWhiteSpace) :: go fuel (rest.dropWhile isWhiteSpace)
      else
        let isText := fun d => !isWhiteSpace d && d != '%'
        .literal (c :: rest.takeWhile isText) :: go fuel (rest.dropWhile isText)

end DatePattern

end NamingDirectory
