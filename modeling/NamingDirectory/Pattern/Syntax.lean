import NamingDirectory.Unicode.Ranges

/-!
Regular expressions as matched and measured, kept in a canonical form by their constructors.
-/

namespace NamingDirectory.Pattern

open NamingDirectory.Unicode

/-- A test on the position between two characters; word tests come in Unicode and ASCII kinds. -/
inductive Look where
  /-- The start of the text. -/
  | startText
  /-- The end of the text. -/
  | endText
  /-- The start of the text or just after a line feed. -/
  | startLine
  /-- The end of the text or just before a line feed. -/
  | endLine
  /-- Like `startLine`, where a carriage return also ends a line but never inside CR LF. -/
  | startLineCrlf
  /-- Like `endLine`, where a carriage return also ends a line but never inside CR LF. -/
  | endLineCrlf
  /-- A word character on exactly one side. -/
  | wordBoundary (unicode : Bool)
  /-- Word characters on both sides or on neither. -/
  | notWordBoundary (unicode : Bool)
  /-- No word character before, one after. -/
  | wordStart (unicode : Bool)
  /-- A word character before, none after. -/
  | wordEnd (unicode : Bool)
  /-- No word character before. -/
  | wordStartHalf (unicode : Bool)
  /-- No word character after. -/
  | wordEndHalf (unicode : Bool)
  deriving Repr, Inhabited, DecidableEq

/-- A regular expression with its flags applied. -/
inductive Regex where
  /-- Matches the empty text. -/
  | empty
  /-- Matches these characters in turn; never empty. -/
  | literal (text : List Char)
  /-- Matches one character of the set; the empty set matches nothing. -/
  | chars (set : CharRanges)
  /-- Matches the empty text where the position passes the test. -/
  | look (test : Look)
  /-- Matches `body` between `min` and `max` times, preferring more when `greedy`. -/
  | repetition (body : Regex) (min : Nat) (max : Option Nat) (greedy : Bool)
  /-- Matches `body` and records where it matched. -/
  | capture (body : Regex)
  /-- Matches the parts one after another. -/
  | concat (parts : List Regex)
  /-- Matches one branch, preferring earlier branches. -/
  | alternation (branches : List Regex)
  deriving Repr, Inhabited, BEq

namespace Regex

/-- The expression that matches nothing: the empty set. -/
def never : Regex := .chars CharRanges.empty

/-- The bytes of the UTF-8 encoding of a run of characters. -/
def encodedLength (text : List Char) : Nat := (text.map Char.utf8Size).foldl (· + ·) 0

/-- The fewest bytes of UTF-8 that a match can span; none when nothing matches. -/
def minLength : Regex → Option Nat
  | .empty => some 0
  | .literal text => some (encodedLength text)
  | .chars set =>
    match set.ranges with
    | [] => none
    | (lo, _) :: _ => some (Char.ofNat lo).utf8Size
  | .look _ => some 0
  | .repetition body min _ _ => body.minLength.map (· * min)
  | .capture body => body.minLength
  | .concat parts =>
    (parts.attach.map fun ⟨part, _⟩ => part.minLength).foldl
      (fun acc part => acc.bind fun a => part.map (a + ·)) (some 0)
  | .alternation branches =>
    match branches.attach.map fun ⟨branch, _⟩ => branch.minLength with
    | [] => none
    | first :: rest => rest.foldl (fun acc b => acc.bind fun a => b.map (Nat.min a)) first

/-- The most bytes of UTF-8 a match can span; none when unbounded or nothing matches. -/
def maxLength : Regex → Option Nat
  | .empty => some 0
  | .literal text => some (encodedLength text)
  | .chars set =>
    match set.ranges.getLast? with
    | none => none
    | some (_, hi) => some (Char.ofNat hi).utf8Size
  | .look _ => some 0
  | .repetition body _ max _ => max.bind fun most => body.maxLength.map (· * most)
  | .capture body => body.maxLength
  | .concat parts =>
    (parts.attach.map fun ⟨part, _⟩ => part.maxLength).foldl
      (fun acc part => acc.bind fun a => part.map (a + ·)) (some 0)
  | .alternation branches =>
    match branches.attach.map fun ⟨branch, _⟩ => branch.maxLength with
    | [] => none
    | first :: rest => rest.foldl (fun acc b => acc.bind fun a => b.map (Nat.max a)) first

/-- Whether the parts of a sequence up to the first that consumes a character include an anchor. -/
def anchoredLead : List (Bool × Bool) → Bool
  | [] => false
  | (anchored, emptyOnly) :: rest => anchored || (emptyOnly && anchoredLead rest)

/-- Whether every match must begin at the start of the text. -/
def anchoredStart : Regex → Bool
  | .look test => test == .startText
  | .repetition body min _ _ => min > 0 && body.anchoredStart
  | .capture body => body.anchoredStart
  | .concat parts =>
    anchoredLead (parts.attach.map fun ⟨part, _⟩ => (part.anchoredStart, part.maxLength == some 0))
  | .alternation branches =>
    !branches.isEmpty && branches.attach.all fun ⟨branch, _⟩ => branch.anchoredStart
  | _ => false

/-- Whether every match must end at the end of the text. -/
def anchoredEnd : Regex → Bool
  | .look test => test == .endText
  | .repetition body min _ _ => min > 0 && body.anchoredEnd
  | .capture body => body.anchoredEnd
  | .concat parts =>
    anchoredLead
      (parts.attach.map fun ⟨part, _⟩ => (part.anchoredEnd, part.maxLength == some 0)).reverse
  | .alternation branches =>
    !branches.isEmpty && branches.attach.all fun ⟨branch, _⟩ => branch.anchoredEnd
  | _ => false

/-- One character of a set: a set of a single character is that character as a literal. -/
def ofSet (set : CharRanges) : Regex :=
  match set.ranges with
  | [(lo, hi)] => if lo == hi then .literal [Char.ofNat lo] else .chars set
  | _ => .chars set

/-- The parts of a sequence with nested sequences opened, empty parts dropped, literals joined. -/
def seqParts (parts : List Regex) : List Regex :=
  let flat := parts.flatMap fun
    | .concat inner => inner
    | .empty => []
    | part => [part]
  (flat.foldl (fun acc part =>
    match part, acc with
    | .literal more, .literal text :: earlier => .literal (text ++ more) :: earlier
    | part, acc => part :: acc) []).reverse

/-- A sequence: no part is the empty expression, one part is itself. -/
def seq (parts : List Regex) : Regex :=
  match seqParts parts with
  | [] => .empty
  | [single] => single
  | many => .concat many

/-- The characters of a choice whose branches are all single characters. -/
def singleChars : List Regex → Option (List Char)
  | [] => some []
  | .literal [c] :: rest => (singleChars rest).map (c :: ·)
  | _ => none

/-- The union of the sets of a choice whose branches are all sets. -/
def unionSets : List Regex → Option CharRanges
  | [] => some CharRanges.empty
  | .chars set :: rest => (unionSets rest).map set.union
  | _ => none

/-- The longest run of parts that the sequences all begin with. -/
def commonHead : List (List Regex) → List Regex
  | [] => []
  | first :: rest =>
    rest.foldl (fun head parts =>
      ((head.zip parts).takeWhile fun (a, b) => a == b).map (·.1)) first

/-- The parts of each branch when every branch is a sequence. -/
def allSequences : List Regex → Option (List (List Regex))
  | [] => some []
  | .concat parts :: rest => (allSequences rest).map (parts :: ·)
  | _ => none

/-- The number of nodes of an expression, which bounds how often a choice takes out a common head. -/
def nodeCount : Regex → Nat
  | .repetition body _ _ _ => body.nodeCount + 1
  | .capture body => body.nodeCount + 1
  | .concat parts => (parts.attach.map fun ⟨part, _⟩ => part.nodeCount).foldl (· + ·) 1
  | .alternation branches =>
    (branches.attach.map fun ⟨branch, _⟩ => branch.nodeCount).foldl (· + ·) 1
  | _ => 1

/-- A choice with a bound on the times a common head is taken out (see `choice`). -/
def choiceWithin : Nat → List Regex → Regex
  | fuel, branches =>
    let flat := branches.flatMap fun
      | .alternation inner => inner
      | branch => [branch]
    match flat with
    | [] => never
    | [single] => single
    | _ =>
      match singleChars flat with
      | some cs => ofSet (CharRanges.ofList (cs.map fun c => (c.toNat, c.toNat)))
      | none =>
        match unionSets flat with
        | some set => ofSet set
        | none =>
          match fuel, allSequences flat with
          | fuel + 1, some sequences =>
            let head := commonHead sequences
            if head.isEmpty then .alternation flat
            else
              seq (head ++ [choiceWithin fuel (sequences.map fun parts => seq (parts.drop head.length))])
          | _, _ => .alternation flat

/-- A choice between branches, earlier preferred, with sets merged and a common head taken out. -/
def choice (branches : List Regex) : Regex :=
  choiceWithin ((branches.map nodeCount).foldl (· + ·) 1) branches

/-- A repetition; a body matching only the empty text needs one round at most. -/
def loop (body : Regex) (min : Nat) (max : Option Nat) (greedy : Bool) : Regex :=
  let (min, max) :=
    if body.maxLength == some 0 then (Nat.min min 1, some ((max.getD 1).min 1)) else (min, max)
  if min == 0 && max == some 0 then .empty
  else if min == 1 && max == some 1 then body
  else .repetition body min max greedy

end Regex

end NamingDirectory.Pattern
