import NamingDirectory.Pattern.Parse
import NamingDirectory.Pattern.Program
import NamingDirectory.Pattern.Size
import Std.Data.TreeSet.Basic

/-!
Searching a text with a compiled pattern for leftmost-first matches, and splitting by them.
-/

namespace NamingDirectory.Pattern

open NamingDirectory.Unicode

/-- A character of the word class: Unicode's word characters, or ASCII ones when `unicode` is false. -/
def isWordChar (unicode : Bool) (c : Char) : Bool :=
  if c.toNat < 0x80 then c.isAlphanum || c == '_' else unicode && wordCharacters.contains c

/-- Whether the position `pos` of `hay` passes the test. -/
def Look.holds (test : Look) (hay : Array Char) (pos : Nat) : Bool :=
  let before : Option Char := if pos = 0 then none else hay[pos - 1]?
  let after : Option Char := hay[pos]?
  let wordBefore := fun unicode => before.any (isWordChar unicode)
  let wordAfter := fun unicode => after.any (isWordChar unicode)
  match test with
  | .startText => pos == 0
  | .endText => pos == hay.size
  | .startLine => pos == 0 || before == some '\n'
  | .endLine => pos == hay.size || after == some '\n'
  | .startLineCrlf =>
    pos == 0 || before == some '\n' || (before == some '\r' && after != some '\n')
  | .endLineCrlf =>
    pos == hay.size || after == some '\r' || (after == some '\n' && before != some '\r')
  | .wordBoundary u => wordBefore u != wordAfter u
  | .notWordBoundary u => wordBefore u == wordAfter u
  | .wordStart u => !wordBefore u && wordAfter u
  | .wordEnd u => wordBefore u && !wordAfter u
  | .wordStartHalf u => !wordBefore u
  | .wordEndHalf u => !wordAfter u

/-- Runs the machine depth first from `stack`, recording explored pairs; the end of the first match. -/
def explore (program : Program) (hay : Array Char) :
    Nat → List (Nat × Nat) → Std.TreeSet Nat → Option Nat × Std.TreeSet Nat
  | 0, _, visited => (none, visited)
  | _, [], visited => (none, visited)
  | fuel + 1, (pc, pos) :: rest, visited =>
    let key := pc * (hay.size + 1) + pos
    if visited.contains key then explore program hay fuel rest visited
    else
      let visited := visited.insert key
      match program.insts[pc]? with
      | none => explore program hay fuel rest visited
      | some .accept => (some pos, visited)
      | some (.consume set next) =>
        match hay[pos]? with
        | some c =>
          if set.contains c then explore program hay fuel ((next, pos + 1) :: rest) visited
          else explore program hay fuel rest visited
        | none => explore program hay fuel rest visited
      | some (.look test next) =>
        if test.holds hay pos then explore program hay fuel ((next, pos) :: rest) visited
        else explore program hay fuel rest visited
      | some (.fork preferred other) =>
        explore program hay fuel ((preferred, pos) :: (other, pos) :: rest) visited
      | some (.goto next) => explore program hay fuel ((next, pos) :: rest) visited

/-- The leftmost match starting at or after `start`; the fuel bounds the explorations over all starts. -/
def searchFrom (program : Program) (hay : Array Char) (start : Nat) : Option (Nat × Nat) :=
  let fuel := 2 * (program.insts.size * (hay.size + 1)) + 2
  let rec go : List Nat → Std.TreeSet Nat → Option (Nat × Nat)
    | [], _ => none
    | s :: later, visited =>
      match explore program hay fuel [(program.entry, s)] visited with
      | (some finish, _) => some (s, finish)
      | (none, visited) => go later visited
  go (List.range' start (hay.size + 1 - start)) {}

/-- The successive non-overlapping matches, as `(start, end)` positions. -/
def matchSpans (program : Program) (hay : Array Char) : List (Nat × Nat) :=
  go (hay.size + 2) 0 none
where
  go : Nat → Nat → Option Nat → List (Nat × Nat)
    | 0, _, _ => []
    | fuel + 1, start, lastEnd =>
      let found :=
        match searchFrom program hay start with
        | some (s, e) =>
          if s == e && lastEnd == some e then searchFrom program hay (start + 1)
          else some (s, e)
        | none => none
      match found with
      | none => []
      | some (s, e) => (s, e) :: go fuel e (some e)

/-- The characters of `hay` from `lo` up to `hi`. -/
def slice (hay : Array Char) (lo hi : Nat) : String :=
  String.ofList ((hay.toList.drop lo).take (hi - lo))

/-- A pattern ready for searching. -/
structure Compiled where
  /-- The pattern as written. -/
  source : String
  /-- The program it compiles to. -/
  program : Program
  deriving Inhabited

/-- Reads and compiles a pattern. -/
def Compiled.ofString (text : String) : Except String Compiled := do
  let regex ← parse text
  if !regex.fitsLimit then throw "pattern too large"
  return { source := text, program := Program.ofRegex regex }

/-- True when the pattern matches somewhere in the text. -/
def Compiled.isMatch (pattern : Compiled) (text : String) : Bool :=
  (searchFrom pattern.program text.toList.toArray 0).isSome

/-- The texts between successive matches, first to last. -/
def Compiled.split (pattern : Compiled) (text : String) : List String :=
  let hay := text.toList.toArray
  let spans := matchSpans pattern.program hay
  let (pieces, last) := spans.foldl (fun (acc : List String × Nat) span =>
    (slice hay acc.2 span.1 :: acc.1, span.2)) ([], 0)
  (slice hay last hay.size :: pieces).reverse

end NamingDirectory.Pattern
