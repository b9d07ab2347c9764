/-!
Sets of characters as sorted, disjoint, inclusive ranges of code points.
-/

namespace NamingDirectory.Unicode

/-- The largest code point. -/
def maxCodePoint : Nat := 0x10FFFF

/-- A set of code points as inclusive ranges, kept sorted, disjoint and not adjacent. -/
structure CharRanges where
  ranges : List (Nat × Nat)
  deriving Repr, Inhabited, DecidableEq

namespace CharRanges

/-- The empty set. -/
def empty : CharRanges := ⟨[]⟩

/-- Every code point. -/
def full : CharRanges := ⟨[(0, maxCodePoint)]⟩

/-- Membership of a code point. -/
def containsCode (set : CharRanges) (code : Nat) : Bool :=
  set.ranges.any fun range => range.1 ≤ code && code ≤ range.2

/-- Membership of a character. -/
def contains (set : CharRanges) (c : Char) : Bool :=
  set.containsCode c.toNat

/-- Merges a list of ranges sorted by their lower ends, joining ranges that overlap or touch. -/
def mergeSorted : List (Nat × Nat) → List (Nat × Nat)
  | [] => []
  | [range] => [range]
  | first :: second :: rest =>
    if second.1 ≤ first.2 + 1 then
      mergeSorted ((first.1, max first.2 second.2) :: rest)
    else
      first :: mergeSorted (second :: rest)
  termination_by ranges => ranges.length

/-- Builds a set from ranges in any order; a range with `lo > hi` is dropped. -/
def ofList (ranges : List (Nat × Nat)) : CharRanges :=
  let valid := ranges.filter fun range => range.1 ≤ range.2
  ⟨mergeSorted (valid.mergeSort fun a b => a.1 ≤ b.1)⟩

/-- The set of one character. -/
def single (c : Char) : CharRanges := ⟨[(c.toNat, c.toNat)]⟩

/-- Union of two sets. -/
def union (a b : CharRanges) : CharRanges := ofList (a.ranges ++ b.ranges)

/-- The gaps of a sorted range list between `start` and `maxCodePoint`. -/
def gapsFrom (start : Nat) : List (Nat × Nat) → List (Nat × Nat)
  | [] => if start ≤ maxCodePoint then [(start, maxCodePoint)] else []
  | range :: rest =>
    let tail := gapsFrom (range.2 + 1) rest
    if start < range.1 then (start, range.1 - 1) :: tail else tail

/-- The complement within all code points. -/
def complement (set : CharRanges) : CharRanges := ⟨gapsFrom 0 set.ranges⟩

/-- Intersection of two sets. -/
def inter (a b : CharRanges) : CharRanges :=
  ofList <| a.ranges.flatMap fun x => b.ranges.filterMap fun y =>
    let lo := max x.1 y.1
    let hi := min x.2 y.2
    if lo ≤ hi then some (lo, hi) else none

/-- The code points of `a` that are not in `b`. -/
def diff (a b : CharRanges) : CharRanges := inter a b.complement

/-- The code points in exactly one of the two sets. -/
def symmDiff (a b : CharRanges) : CharRanges := union (diff a b) (diff b a)

/-- True when the set holds no code point. -/
def isEmpty (set : CharRanges) : Bool := set.ranges.isEmpty

/-- The union of several sets. -/
def unionAll (sets : List CharRanges) : CharRanges := ofList (sets.flatMap (·.ranges))

/-- The value of a hexadecimal digit, upper or lower case. -/
def hexDigitValue? (c : Char) : Option Nat :=
  if '0' ≤ c && c ≤ '9' then some (c.toNat - '0'.toNat)
  else if 'A' ≤ c && c ≤ 'F' then some (c.toNat - 'A'.toNat + 10)
  else if 'a' ≤ c && c ≤ 'f' then some (c.toNat - 'a'.toNat + 10)
  else none

/-- The value of a hexadecimal numeral of at least one digit. -/
def hexValue? (digits : String) : Option Nat :=
  if digits.isEmpty then none
  else digits.toList.foldlM (fun acc c => (hexDigitValue? c).map (acc * 16 + ·)) 0

/-- One item of range text: `lo-hi`, or one code point. -/
def rangeOfText? (item : String) : Option (Nat × Nat) :=
  match item.splitOn "-" with
  | [code] => (hexValue? code).map fun n => (n, n)
  | [lo, hi] => do return (← hexValue? lo, ← hexValue? hi)
  | _ => none

/-- Reads lines of hexadecimal code points and `lo-hi` ranges, passing over anything else. -/
def ofHexLines (lines : List String) : CharRanges :=
  ofList (lines.flatMap fun line => (line.splitOn " ").filterMap rangeOfText?)

end CharRanges

end NamingDirectory.Unicode
