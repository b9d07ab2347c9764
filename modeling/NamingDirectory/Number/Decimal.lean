import NamingDirectory.Number.Binary64

/-!
Decimal text of double-precision numbers: the shortest that reads back, and reading a decimal.
-/

namespace NamingDirectory

namespace Binary64

/-- The number of decimal digits of a positive number (one for zero). -/
def decimalLength (n : Nat) : Nat := (Nat.toDigits 10 n).length

/-- Whether the grid point `c · 10^k` reads back as `m · 2^e`: within the half gap on its side. -/
def readsBack (m : Nat) (e : Int) (lowerQuarter inclusive : Bool) (c : Nat) (k : Int) : Bool :=
  let t2 : Nat := (2 - e).toNat
  let t10 : Nat := (-k).toNat
  let value := m * Nat.pow 2 (e + t2).toNat * Nat.pow 10 t10
  let point := c * Nat.pow 10 (k + t10).toNat * Nat.pow 2 t2
  let upperGap := Nat.pow 2 (e - 1 + t2).toNat * Nat.pow 10 t10
  let lowerGap := (if lowerQuarter then Nat.pow 2 (e - 2 + t2).toNat else Nat.pow 2 (e - 1 + t2).toNat) * Nat.pow 10 t10
  if point ≥ value then
    let d := point - value
    d < upperGap || (inclusive && d == upperGap)
  else
    let d := value - point
    d < lowerGap || (inclusive && d == lowerGap)

/-- The decimal digits of a natural number. -/
def digitsOf (n : Nat) : List Nat := (Nat.toDigits 10 n).map fun c => c.toNat - '0'.toNat

/-- Drops trailing zero digits, raising the exponent for each. -/
def stripZeros : Nat → Nat → Int → Nat × Int
  | 0, c, k => (c, k)
  | fuel + 1, c, k => if c != 0 && c % 10 == 0 then stripZeros fuel (c / 10) (k + 1) else (c, k)

/-- The shortest decimal of `m · 2^e`, `m > 0`, as digits and point: `0.d₁d₂… · 10^point`. -/
def shortestOfParts (m : Nat) (e : Int) (lowerQuarter : Bool) : List Nat × Int :=
  let inclusive := m % 2 == 0
  -- The value is `exact · 10^q`.
  let (exact, q) : Nat × Int := if e ≥ 0 then (m * Nat.pow 2 e.toNat, 0) else (m * Nat.pow 5 (-e).toNat, e)
  let point := Int.ofNat (decimalLength exact) + q
  let pick := fun (n : Nat) =>
    let k := point - n
    let below :=
      if k ≥ q then exact / Nat.pow 10 (k - q).toNat else exact * Nat.pow 10 (q - k).toNat
    let above := below + 1
    let okBelow := readsBack m e lowerQuarter inclusive below k
    let okAbove := readsBack m e lowerQuarter inclusive above k
    if okBelow && okAbove then
      let low := min q k
      let scaledValue := exact * Nat.pow 10 (q - low).toNat
      let unit := Nat.pow 10 (k - low).toNat
      let dBelow := scaledValue - below * unit
      let dAbove := above * unit - scaledValue
      if dBelow < dAbove then some (below, k)
      else if dAbove < dBelow then some (above, k)
      else if below % 2 == 0 then some (below, k) else some (above, k)
    else if okBelow then some (below, k)
    else if okAbove then some (above, k)
    else none
  match (List.range 17).findSome? (fun i => pick (i + 1)) with
  | some (c, k) =>
    let (c, k) := stripZeros 400 c k
    (digitsOf c, k + Int.ofNat (decimalLength c))
  | none =>
    let (c, k) := stripZeros 800 exact q
    (digitsOf c, k + Int.ofNat (decimalLength c))

/-- The shortest decimal that reads back as a finite non-zero number. -/
def shortestDigits (x : Binary64) : List Nat × Int :=
  let (m, e) := x.magnitude
  shortestOfParts m e (x.fractionField == 0 && x.exponentField > 1)

end Binary64

/-- How a number is laid out as text. -/
structure FloatStyle where
  /-- Positional notation is used when the point position lies between these bounds, inclusive. -/
  positionalFrom : Option Int
  positionalTo : Option Int
  /-- The least number of digits after the point in positional notation. -/
  minFraction : Nat
  nanText : String
  infinityText : String
  negativeInfinityText : String

namespace FloatStyle

/-- Digits as text. -/
def digitText (ds : List Nat) : String :=
  String.ofList (ds.map fun d => Char.ofNat ('0'.toNat + d))

/-- Positional layout of digits with the point at `point`. -/
def positional (style : FloatStyle) (ds : List Nat) (point : Int) : String :=
  let len := Int.ofNat ds.length
  if point ≤ 0 then
    "0." ++ String.ofList (List.replicate (-point).toNat '0') ++ digitText ds
  else if point ≥ len then
    digitText ds ++ String.ofList (List.replicate (point - len).toNat '0') ++
      (if style.minFraction > 0 then "." ++ String.ofList (List.replicate style.minFraction '0')
       else "")
  else
    digitText (ds.take point.toNat) ++ "." ++ digitText (ds.drop point.toNat)

/-- Exponent layout: one digit, the others after a point, then `e` and the exponent. -/
def scientific (ds : List Nat) (point : Int) : String :=
  let head := digitText (ds.take 1)
  let tail := ds.drop 1
  head ++ (if tail.isEmpty then "" else "." ++ digitText tail) ++ "e" ++ toString (point - 1)

/-- The text of a number in this style. -/
def render (style : FloatStyle) (x : Binary64) : String :=
  if x.isNaN then style.nanText
  else if x.isInfinite then
    if x.signBit then style.negativeInfinityText else style.infinityText
  else
    let sign := if x.signBit then "-" else ""
    if x.isZero then
      sign ++ "0" ++
        (if style.minFraction > 0 then "." ++ String.ofList (List.replicate style.minFraction '0')
         else "")
    else
      let (ds, point) := x.shortestDigits
      let fromOk := match style.positionalFrom with
        | some lo => lo ≤ point
        | none => true
      let toOk := match style.positionalTo with
        | some hi => point ≤ hi
        | none => true
      sign ++ (if fromOk && toOk then style.positional ds point else scientific ds point)

end FloatStyle

namespace Binary64

/-- Why a text is not a number. -/
inductive ReadError where
  | empty
  | invalid
  deriving Repr, Inhabited, DecidableEq

/-- The digits at the front of a list and the rest. -/
def spanDigits (chars : List Char) : List Char × List Char :=
  (chars.takeWhile Char.isDigit, chars.dropWhile Char.isDigit)

/-- The value of decimal digits. -/
def digitsValue (ds : List Char) : Nat :=
  ds.foldl (fun acc c => acc * 10 + (c.toNat - '0'.toNat)) 0

/-- The number nearest to `mantissa · 10^exponent`. -/
def ofDecimal (negative : Bool) (mantissa : Nat) (exponent : Int) : Binary64 :=
  if mantissa == 0 then zero negative
  else
    let magnitude := Int.ofNat (decimalLength mantissa) + exponent
    if magnitude > 310 then infinity negative
    else if magnitude < -330 then zero negative
    else if exponent ≥ 0 then ofScaled negative (mantissa * Nat.pow 10 exponent.toNat) 1 0
    else ofScaled negative mantissa (Nat.pow 10 (-exponent).toNat) 0

/-- Reads the unsigned part of a decimal number. -/
def readUnsigned (negative : Bool) (chars : List Char) : Except ReadError Binary64 :=
  let lower := chars.map Char.toLower
  if lower == "inf".toList || lower == "infinity".toList then .ok (infinity negative)
  else if lower == "nan".toList then .ok (if negative then nan.negate else nan)
  else
    let (whole, rest) := spanDigits chars
    let (fraction, rest) := match rest with
      | '.' :: more => spanDigits more
      | _ => ([], rest)
    if whole.isEmpty && fraction.isEmpty then .error .invalid
    else
      let exponent : Except ReadError Int :=
        match rest with
        | [] => .ok 0
        | c :: more =>
          if c == 'e' || c == 'E' then
            let (expNegative, digits) := match more with
              | '-' :: ds => (true, ds)
              | '+' :: ds => (false, ds)
              | ds => (false, ds)
            if digits.isEmpty || !digits.all Char.isDigit then .error .invalid
            else
              let v := Int.ofNat (digitsValue digits)
              .ok (if expNegative then -v else v)
          else .error .invalid
      match exponent with
      | .error err => .error err
      | .ok exp10 =>
        .ok (ofDecimal negative (digitsValue (whole ++ fraction))
          (exp10 - Int.ofNat fraction.length))

/-- Reads an optional sign, then `inf`, `infinity`, `nan` or digits with a point and an exponent. -/
def readDecimal (text : String) : Except ReadError Binary64 :=
  match text.toList with
  | [] => .error .empty
  | '+' :: rest => if rest.isEmpty then .error .invalid else readUnsigned false rest
  | '-' :: rest => if rest.isEmpty then .error .invalid else readUnsigned true rest
  | chars => readUnsigned false chars

/-- The reason of a failed reading, in words. -/
def ReadError.message : ReadError → String
  | .empty => "cannot parse float from empty string"
  | .invalid => "invalid float literal"

end Binary64

end NamingDirectory
