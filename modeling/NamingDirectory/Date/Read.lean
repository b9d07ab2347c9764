import NamingDirectory.Date.Pattern
import NamingDirectory.Date.Fields

/-!
Reading a date and time, or a date at midnight, by a pattern.
-/

namespace NamingDirectory

namespace DatePattern

open NamingDirectory.Unicode

/-- Reads between `least` and `most` ASCII digits. -/
def number (text : List Char) (least most : Nat) : Option (Nat × List Char) :=
  let ds := (text.take most).takeWhile Char.isDigit
  if ds.length < least then none
  else
    let value := ds.foldl (fun acc c => acc * 10 + (c.toNat - '0'.toNat)) 0
    if value ≥ Nat.pow 2 63 then none else some (value, text.drop ds.length)

/-- The widths of numeric fields, and whether an explicit sign is allowed. -/
def NumericField.width : NumericField → Nat × Bool
  | .year => (4, true)
  | .isoYear => (4, true)
  | .ordinal => (3, false)
  | .quarter => (1, false)
  | .numDaysFromSun => (1, false)
  | .weekdayFromMon => (1, false)
  | .nanosecond => (9, false)
  | .timestamp => (Nat.pow 2 64, false)
  | _ => (2, false)

/-- Stores a numeric field, checking its range. -/
def setNumeric (f : Fields) (field : NumericField) (v : Int) : Option Fields :=
  let inRange := fun (lo hi : Int) => lo ≤ v && v ≤ hi
  let put := fun {α : Type} [BEq α] (current : Option α) (value : α) (update : Option α → Fields) =>
    match setField current value with
    | .ok x => some (update x)
    | .error _ => none
  match field with
  | .year => if inRange (-Int.pow 2 31) (Int.pow 2 31 - 1) then put f.year v fun x => { f with year := x } else none
  | .yearDiv100 => if inRange 0 (Int.pow 2 31 - 1) then put f.yearDiv100 v fun x => { f with yearDiv100 := x } else none
  | .yearMod100 => if inRange 0 99 then put f.yearMod100 v fun x => { f with yearMod100 := x } else none
  | .isoYear => if inRange (-Int.pow 2 31) (Int.pow 2 31 - 1) then put f.isoYear v fun x => { f with isoYear := x } else none
  | .isoYearDiv100 => if inRange 0 (Int.pow 2 31 - 1) then put f.isoYearDiv100 v fun x => { f with isoYearDiv100 := x } else none
  | .isoYearMod100 => if inRange 0 99 then put f.isoYearMod100 v fun x => { f with isoYearMod100 := x } else none
  | .month => if inRange 1 12 then put f.month v.toNat fun x => { f with month := x } else none
  | .day => if inRange 1 31 then put f.day v.toNat fun x => { f with day := x } else none
  | .weekFromSun => if inRange 0 53 then put f.weekFromSun v.toNat fun x => { f with weekFromSun := x } else none
  | .weekFromMon => if inRange 0 53 then put f.weekFromMon v.toNat fun x => { f with weekFromMon := x } else none
  | .isoWeek => if inRange 1 53 then put f.isoWeek v.toNat fun x => { f with isoWeek := x } else none
  | .numDaysFromSun =>
    if inRange 0 6 then put f.weekday ((v.toNat + 6) % 7) fun x => { f with weekday := x } else none
  | .weekdayFromMon =>
    if inRange 1 7 then put f.weekday (v.toNat - 1) fun x => { f with weekday := x } else none
  | .ordinal => if inRange 1 366 then put f.ordinal v.toNat fun x => { f with ordinal := x } else none
  | .quarter => if inRange 1 4 then put f.quarter v.toNat fun x => { f with quarter := x } else none
  | .hour =>
    if inRange 0 23 then
      match f.withHour v.toNat with
      | .ok g => some g
      | .error _ => none
    else none
  | .hour12 =>
    if inRange 1 12 then put f.hourMod12 (v.toNat % 12) fun x => { f with hourMod12 := x } else none
  | .minute => if inRange 0 59 then put f.minute v.toNat fun x => { f with minute := x } else none
  | .second => if inRange 0 60 then put f.second v.toNat fun x => { f with second := x } else none
  | .nanosecond =>
    if inRange 0 999999999 then put f.nanosecond v.toNat fun x => { f with nanosecond := x } else none
  | .timestamp => put f.timestamp v fun x => { f with timestamp := x }

/-- The three-letter names of months and weekdays, and the rest of their long names. -/
def monthNames : List (String × String) :=
  [("jan", "uary"), ("feb", "ruary"), ("mar", "ch"), ("apr", "il"), ("may", ""), ("jun", "e"),
   ("jul", "y"), ("aug", "ust"), ("sep", "tember"), ("oct", "ober"), ("nov", "ember"),
   ("dec", "ember")]

def weekdayNames : List (String × String) :=
  [("mon", "day"), ("tue", "sday"), ("wed", "nesday"), ("thu", "rsday"), ("fri", "day"),
   ("sat", "urday"), ("sun", "day")]

/-- ASCII lower case of a character. -/
def lowerAscii (c : Char) : Char := if 'A' ≤ c && c ≤ 'Z' then c.toLower else c

/-- Matches a name from a table at the front of the text, long when `long` allows; its index and rest. -/
def nameAt (table : List (String × String)) (long : Bool) (text : List Char) :
    Option (Nat × List Char) :=
  let front := (text.take 3).map lowerAscii
  match table.zipIdx.find? (fun ((short, _), _) => front == short.toList) with
  | none => none
  | some ((_, suffix), index) =>
    let rest := text.drop 3
    let tail := suffix.toList
    if long && (rest.take tail.length).map lowerAscii == tail then
      some (index, rest.drop tail.length)
    else some (index, rest)

/-- Reads a zone offset of a sign, hours and minutes, the minutes optional at the end if so asked. -/
def zoneOffset (text : List Char) (minutesOptional zulu : Bool) : Option (Int × List Char) :=
  match text with
  | c :: rest =>
    if zulu && (c == 'Z' || c == 'z') then some (0, rest)
    else
      let sign : Option Bool :=
        if c == '+' then some false else if c == '-' || c == '−' then some true else none
      match sign with
      | none => none
      | some negative =>
        match rest with
        | h1 :: h2 :: more =>
          if !h1.isDigit || !h2.isDigit then none
          else
            let hours := (h1.toNat - 48) * 10 + (h2.toNat - 48)
            let more := more.dropWhile fun d => d == ':' || isWhiteSpace d
            let minutes : Option (Nat × List Char) :=
              match more with
              | m1 :: m2 :: after =>
                if m1.isDigit && m2.isDigit && m1 ≤ '5' then
                  some ((m1.toNat - 48) * 10 + (m2.toNat - 48), after)
                else none
              | [] => if minutesOptional then some (0, []) else none
              | _ => none
            minutes.map fun (m, after) =>
              let secs : Int := Int.ofNat (hours * 3600 + m * 60)
              (if negative then -secs else secs, after)
        | _ => none
  | [] => none

/-- Matches one item at the front of the text. -/
def matchItem (f : Fields) (text : List Char) : Item → Option (Fields × List Char)
  | .literal lit => if lit.isPrefixOf text then some (f, text.drop lit.length) else none
  | .space _ => some (f, text.dropWhile isWhiteSpace)
  | .numeric field =>
    let text := text.dropWhile isWhiteSpace
    let (width, signed) := field.width
    let read : Option (Int × List Char) :=
      match signed, text with
      | true, '-' :: rest => (number rest 1 rest.length).map fun (v, r) => (-Int.ofNat v, r)
      | true, '+' :: rest => (number rest 1 rest.length).map fun (v, r) => (Int.ofNat v, r)
      | _, _ => (number text 1 width).map fun (v, r) => (Int.ofNat v, r)
    read.bind fun (v, rest) => (setNumeric f field v).map (·, rest)
  | .monthName long =>
    (nameAt monthNames long text).bind fun (index, rest) =>
      (setNumeric f .month (Int.ofNat index + 1)).map (·, rest)
  | .weekdayName long =>
    (nameAt weekdayNames long text).bind fun (index, rest) =>
      match setField f.weekday index with
      | .ok w => some ({ f with weekday := w }, rest)
      | .error _ => none
  | .ampm =>
    match text with
    | a :: m :: rest =>
      let a := lowerAscii a
      if lowerAscii m != 'm' || (a != 'a' && a != 'p') then none
      else
        match setField f.hourDiv12 (if a == 'p' then 1 else 0) with
        | .ok h => some ({ f with hourDiv12 := h }, rest)
        | .error _ => none
    | _ => none
  | .dotFraction digits =>
    match text with
    | '.' :: rest =>
      let ds := rest.takeWhile Char.isDigit
      let (used, taken) := match digits with
        | none => (ds.take 9, ds.length)
        | some count => if ds.length < count then ([], 0) else (ds.take count, count)
      if used.isEmpty then none
      else
        let value := used.foldl (fun acc c => acc * 10 + (c.toNat - '0'.toNat)) 0
        let nano := value * Nat.pow 10 (9 - used.length)
        (setNumeric f .nanosecond (Int.ofNat nano)).map (·, rest.drop taken)
    | _ => some (f, text)
  | .digitsFraction count =>
    match number text count count with
    | some (value, rest) =>
      (setNumeric f .nanosecond (Int.ofNat (value * Nat.pow 10 (9 - count)))).map (·, rest)
    | none => none
  | .zoneName => some (f, text.dropWhile fun c => !isWhiteSpace c)
  | .zoneOffset permissive =>
    (zoneOffset (text.dropWhile isWhiteSpace) permissive permissive).bind fun (offset, rest) =>
      match setField f.offset offset with
      | .ok o => some ({ f with offset := o }, rest)
      | .error _ => none
  | .dateTimeSeparator =>
    match text with
    | c :: rest => if c == 'T' || c == 't' || c == ' ' then some (f, rest) else none
    | [] => none
  | .utcOffset =>
    let text := text.dropWhile isWhiteSpace
    let read :=
      if (text.take 3).map lowerAscii == ['u', 't', 'c'] then some (0, text.drop 3)
      else zoneOffset text false true
    read.bind fun (offset, rest) =>
      match setField f.offset offset with
      | .ok o => some ({ f with offset := o }, rest)
      | .error _ => none
  | .invalid => none

/-- Matches all items and requires the text to be used up. -/
def matchAll (text : List Char) (pattern : List Item) : Option Fields :=
  let rec go : Fields → List Char → List Item → Option Fields
    | f, rest, [] => if rest.isEmpty then some f else none
    | f, rest, item :: more =>
      match matchItem f rest item with
      | some (g, rest') => go g rest' more
      | none => none
  go {} text pattern

end DatePattern

namespace DateTime

/-- Reads a date and time by a pattern. -/
def readWith (text pattern : String) : Option DateTime :=
  (DatePattern.matchAll text.toList (DatePattern.items pattern.toList)).bind fun f =>
    match f.toDateTime with
    | .ok t => some t
    | .error _ => none

/-- Reads a date by a pattern, at midnight. -/
def readDateWith (text pattern : String) : Option DateTime :=
  (DatePattern.matchAll text.toList (DatePattern.items pattern.toList)).bind fun f =>
    match f.toDate with
    | .ok (y, m, d) => some ⟨y, m, d, 0, 0, 0, 0⟩
    | .error _ => none

/-- Reads a date and time by a pattern, or else a date alone at midnight. -/
def readLenient (text pattern : String) : Option DateTime :=
  (readWith text pattern).orElse fun _ => readDateWith text pattern

end DateTime

end NamingDirectory
