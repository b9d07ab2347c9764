import NamingDirectory.Unicode.Ranges

/-!
The Unicode White_Space property, fixed since Unicode 6.3, and trimming by it.
-/

namespace NamingDirectory.Unicode

/-- The White_Space characters as code point ranges. -/
def whiteSpace : CharRanges :=
  ⟨[(0x9, 0xD), (0x20, 0x20), (0x85, 0x85), (0xA0, 0xA0), (0x1680, 0x1680),
    (0x2000, 0x200A), (0x2028, 0x2029), (0x202F, 0x202F), (0x205F, 0x205F),
    (0x3000, 0x3000)]⟩

/-- True for a White_Space character. -/
def isWhiteSpace (c : Char) : Bool :=
  let n := c.toNat
  if n < 0x80 then n == 0x20 || (0x9 ≤ n && n ≤ 0xD)
  else whiteSpace.containsCode n

example : isWhiteSpace ' ' = true ∧ isWhiteSpace '\u3000' = true ∧ isWhiteSpace 'a' = false := by
  decide

/-- A text without White_Space at its start. -/
def trimStart (s : String) : String := String.ofList (s.toList.dropWhile isWhiteSpace)

/-- A text without White_Space at its end. -/
def trimEnd (s : String) : String :=
  String.ofList (s.toList.reverse.dropWhile isWhiteSpace).reverse

/-- A text without White_Space at either end. -/
def trim (s : String) : String := trimEnd (trimStart s)

end NamingDirectory.Unicode
