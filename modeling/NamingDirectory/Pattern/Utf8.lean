/-!
The UTF-8 encoding of code points, and the byte sequences of a range of code points.
-/

namespace NamingDirectory.Pattern

/-- The UTF-8 encoding of a code point, as byte values. -/
def encodeUtf8 (code : Nat) : List Nat :=
  if code < 0x80 then [code]
  else if code < 0x800 then [0xC0 + code / 64, 0x80 + code % 64]
  else if code < 0x10000 then [0xE0 + code / 4096, 0x80 + code / 64 % 64, 0x80 + code % 64]
  else [0xF0 + code / 262144, 0x80 + code / 4096 % 64, 0x80 + code / 64 % 64, 0x80 + code % 64]

/-- The largest code point whose encoding has `length` bytes. -/
def largestOfLength : Nat → Nat
  | 1 => 0x7F
  | 2 => 0x7FF
  | 3 => 0xFFFF
  | _ => 0x10FFFF

/-- The byte sequences of the code points from `lo` to `hi`, splitting at most `fuel` deep. -/
def utf8SequencesWithin : Nat → Nat → Nat → List (List (Nat × Nat))
  | 0, _, _ => []
  | fuel + 1, lo, hi =>
    if lo < 0xE000 && hi > 0xD7FF then
      utf8SequencesWithin fuel lo 0xD7FF ++ utf8SequencesWithin fuel 0xE000 hi
    else if lo > hi then []
    else
      -- Where the length of the encoding changes inside the range.
      match [1, 2, 3].find? (fun n => lo ≤ largestOfLength n && largestOfLength n < hi) with
      | some n =>
        utf8SequencesWithin fuel lo (largestOfLength n) ++
          utf8SequencesWithin fuel (largestOfLength n + 1) hi
      | none =>
        if hi ≤ 0x7F then [[(lo, hi)]]
        else
          -- Where a continuation byte would wrap.
          let wrap := [1, 2, 3].findSome? fun n =>
            let size := Nat.pow 64 n
            if lo / size != hi / size then
              if lo % size != 0 then some (lo / size * size + size - 1, true)
              else if hi % size != size - 1 then some (hi / size * size, false)
              else none
            else none
          match wrap with
          | some (cut, true) => utf8SequencesWithin fuel lo cut ++ utf8SequencesWithin fuel (cut + 1) hi
          | some (cut, false) => utf8SequencesWithin fuel lo (cut - 1) ++ utf8SequencesWithin fuel cut hi
          | none => [(encodeUtf8 lo).zip (encodeUtf8 hi)]

/-- The byte sequences of the code points from `lo` to `hi`, in increasing order. -/
def utf8Sequences (lo hi : Nat) : List (List (Nat × Nat)) :=
  utf8SequencesWithin 32 lo hi

end NamingDirectory.Pattern
