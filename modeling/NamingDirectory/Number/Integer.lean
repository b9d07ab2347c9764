/-!
Reading decimal integers of a bounded type, left to right, reporting the first fault.
-/

namespace NamingDirectory

/-- An integer type given by its name and its range. -/
structure IntegerType where
  name : String
  signed : Bool
  min : Int
  max : Int
  deriving Repr, Inhabited

namespace IntegerType

/-- Signed 64-bit integers. -/
def int64 : IntegerType := ⟨"i64", true, -Int.pow 2 63, Int.pow 2 63 - 1⟩

/-- Signed 8-bit integers. -/
def int8 : IntegerType := ⟨"i8", true, -Int.pow 2 7, Int.pow 2 7 - 1⟩

/-- Unsigned 16-bit integers. -/
def uint16 : IntegerType := ⟨"u16", false, 0, Int.pow 2 16 - 1⟩

/-- Unsigned 64-bit integers. -/
def uint64 : IntegerType := ⟨"u64", false, 0, Int.pow 2 64 - 1⟩

end IntegerType

/-- Why a text is not an integer of the type. -/
inductive IntegerError where
  | empty
  | invalidDigit
  | tooLarge
  | tooSmall
  deriving Repr, Inhabited, DecidableEq

/-- The reason in words. -/
def IntegerError.message : IntegerError → String
  | .empty => "cannot parse integer from empty string"
  | .invalidDigit => "invalid digit found in string"
  | .tooLarge => "number too large to fit in target type"
  | .tooSmall => "number too small to fit in target type"

namespace IntegerType

/-- Accumulates digits from the left, checking each step against the range. -/
def accumulate (ty : IntegerType) (negative : Bool) : Int → List Char → Except IntegerError Int
  | acc, [] => .ok acc
  | acc, c :: rest =>
    if !c.isDigit then .error .invalidDigit
    else
      let d := Int.ofNat (c.toNat - '0'.toNat)
      let next := if negative then acc * 10 - d else acc * 10 + d
      if next > ty.max then .error .tooLarge
      else if next < ty.min then .error .tooSmall
      else accumulate ty negative next rest

/-- Reads a decimal integer of the type. -/
def read (ty : IntegerType) (text : String) : Except IntegerError Int :=
  match text.toList with
  | [] => .error .empty
  | ['+'] => .error .invalidDigit
  | ['-'] => .error .invalidDigit
  | '+' :: rest => accumulate ty false 0 rest
  | '-' :: rest => if ty.signed then accumulate ty true 0 rest else .error .invalidDigit
  | chars => accumulate ty false 0 chars

end IntegerType

end NamingDirectory
