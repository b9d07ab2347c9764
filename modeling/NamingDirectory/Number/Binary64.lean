/-!
Double-precision numbers held as their 64 bits, and rounding an exact rational to the nearest.
-/

namespace NamingDirectory

/-- A double-precision number as its bit pattern. -/
structure Binary64 where
  bits : UInt64
  deriving DecidableEq, Repr, Inhabited

namespace Binary64

/-- The bit of the sign. -/
def signBit (x : Binary64) : Bool := x.bits.toNat ≥ Nat.pow 2 63

/-- The biased exponent field. -/
def exponentField (x : Binary64) : Nat := (x.bits.toNat / Nat.pow 2 52) % Nat.pow 2 11

/-- The fraction field. -/
def fractionField (x : Binary64) : Nat := x.bits.toNat % Nat.pow 2 52

/-- Not a number. -/
def isNaN (x : Binary64) : Bool := x.exponentField == 2047 && x.fractionField != 0

/-- An infinity. -/
def isInfinite (x : Binary64) : Bool := x.exponentField == 2047 && x.fractionField == 0

/-- A zero of either sign. -/
def isZero (x : Binary64) : Bool := x.exponentField == 0 && x.fractionField == 0

/-- Neither an infinity nor a NaN. -/
def isFinite (x : Binary64) : Bool := x.exponentField != 2047

/-- The magnitude of a finite number as `(mantissa, exponent)`, worth `mantissa · 2^exponent`. -/
def magnitude (x : Binary64) : Nat × Int :=
  if x.exponentField == 0 then (x.fractionField, -1074)
  else (x.fractionField + Nat.pow 2 52, Int.ofNat x.exponentField - 1075)

/-- Builds a number from its sign, biased exponent and fraction fields. -/
def ofFields (sign : Bool) (exponent fraction : Nat) : Binary64 :=
  ⟨UInt64.ofNat ((if sign then Nat.pow 2 63 else 0) + (exponent % Nat.pow 2 11) * Nat.pow 2 52 + fraction % Nat.pow 2 52)⟩

/-- Positive and negative zero. -/
def zero (sign : Bool) : Binary64 := ofFields sign 0 0

/-- Positive and negative infinity. -/
def infinity (sign : Bool) : Binary64 := ofFields sign 2047 0

/-- The quiet NaN with an empty payload. -/
def nan : Binary64 := ofFields false 2047 (Nat.pow 2 51)

/-- The same number with the other sign. -/
def negate (x : Binary64) : Binary64 := ⟨x.bits ^^^ ((1 : UInt64) <<< 63)⟩

/-- Equality of values: NaN equals nothing and the two zeros are equal. -/
def valueEq (x y : Binary64) : Bool :=
  !x.isNaN && !y.isNaN && (x.bits == y.bits || (x.isZero && y.isZero))

/-- The sixteen lowercase hexadecimal digits of the bit pattern. -/
def toHex (x : Binary64) : String :=
  let digits := Nat.toDigits 16 x.bits.toNat
  String.ofList (List.replicate (16 - digits.length) '0' ++ digits)

/-- Reads sixteen hexadecimal digits as a bit pattern. -/
def ofHex? (text : String) : Option Binary64 :=
  let chars := text.toList
  if chars.length != 16 then none
  else
    chars.foldlM (fun (acc : Nat) (c : Char) =>
      if c.isDigit then some (acc * 16 + (c.toNat - '0'.toNat))
      else if 'a' ≤ c && c ≤ 'f' then some (acc * 16 + (c.toNat - 'a'.toNat + 10))
      else if 'A' ≤ c && c ≤ 'F' then some (acc * 16 + (c.toNat - 'A'.toNat + 10))
      else none) 0 |>.map fun n => ⟨UInt64.ofNat n⟩

/-- Division rounded to the nearest natural number, ties to even. -/
def divRoundEven (num den : Nat) : Nat :=
  let q := num / den
  let r := num % den
  if 2 * r > den then q + 1
  else if 2 * r < den then q
  else if q % 2 == 0 then q else q + 1

/-- The number nearest to `num / den · 2^shift` (both positive), ties to even; infinity beyond. -/
def ofScaled (sign : Bool) (num den : Nat) (shift : Int) : Binary64 :=
  if num == 0 || den == 0 then zero sign
  else
    -- First guess of `e` with `2^52 ≤ num / den · 2^(shift - e) < 2^53`.
    let estimate : Int := Int.ofNat (Nat.log2 num) - Int.ofNat (Nat.log2 den) + shift - 52
    let scaledAt := fun (e : Int) =>
      let s := shift - e
      if s ≥ 0 then (num * Nat.pow 2 s.toNat, den) else (num, den * Nat.pow 2 (-s).toNat)
    let fits := fun (e : Int) =>
      let (n, d) := scaledAt e
      Nat.pow 2 52 * d ≤ n && n < Nat.pow 2 53 * d
    let e0 := [estimate - 1, estimate, estimate + 1].find? fits |>.getD estimate
    let e := max e0 (-1074)
    let (n, d) := scaledAt e
    let m := divRoundEven n d
    let (m, e) := if m == Nat.pow 2 53 then (Nat.pow 2 52, e + 1) else (m, e)
    if m == 0 then zero sign
    else if m < Nat.pow 2 52 then ofFields sign 0 m
    else if e + 1075 ≥ 2047 then infinity sign
    else ofFields sign (e + 1075).toNat (m - Nat.pow 2 52)

/-- The number nearest to an integer. -/
def ofInt (n : Int) : Binary64 :=
  ofScaled (n < 0) n.natAbs 1 0

end Binary64

end NamingDirectory
