import NamingDirectory.Pattern.Syntax
import NamingDirectory.Unicode.CaseFolding
import NamingDirectory.Unicode.Digit
import NamingDirectory.Unicode.Property
import NamingDirectory.Unicode.Word
import NamingDirectory.Unicode.WhiteSpace

/-!
Reading a regular expression of the common backtracking-free grammar, its flags applied as it
is read; look-around and back-references are refused.
-/

namespace NamingDirectory.Pattern

open NamingDirectory.Unicode

/-- The flags in force at a point of the pattern. -/
structure Flags where
  caseless : Bool := false
  multiLine : Bool := false
  dotAll : Bool := false
  swapGreed : Bool := false
  unicode : Bool := true
  crlf : Bool := false
  verbose : Bool := false
  deriving Repr, Inhabited

/-- The reader's position in the pattern, its flags, and the capture names met so far. -/
structure Reader where
  text : Array Char
  pos : Nat
  flags : Flags
  names : List String

/-- Reading fails with a short reason. -/
abbrev ReadM := StateT Reader (Except String)

/-- A leaf read from an escape or a plain character. -/
inductive Primitive where
  | literal (c : Char)
  | set (chars : CharRanges)
  | look (test : Look)
  deriving Inhabited

/-- An element of a concatenation being read: a flag directive, or a regex with its nesting depth. -/
inductive Element where
  | regex (r : Regex) (depth : Nat)
  | directive
  deriving Inhabited

/-- The nesting depth of a sequence or choice: one part as itself, several one level above the deepest. -/
def nestedDepth : List Nat → Nat
  | [] => 0
  | [depth] => depth
  | depths => 1 + depths.foldl max 0

/-- The deepest nesting a pattern may have. -/
def nestLimit : Nat := 250

section Reading

def current : ReadM (Option Char) := do
  let r ← get
  return r.text[r.pos]?

def peekAt (offset : Nat) : ReadM (Option Char) := do
  let r ← get
  return r.text[r.pos + offset]?

def atEnd : ReadM Bool := do
  let r ← get
  return r.pos ≥ r.text.size

/-- Moves one character on; false when the end is reached. -/
def bump : ReadM Bool := do
  modify fun r => { r with pos := r.pos + 1 }
  return !(← atEnd)

def fail {α : Type} (reason : String) : ReadM α := throw reason

/-- Skips the blanks and the `#` comments of verbose mode after a position. -/
def skipVerboseFrom (text : Array Char) : Nat → Nat → Nat
  | 0, pos => pos
  | fuel + 1, pos =>
    match text[pos]? with
    | none => pos
    | some c =>
      if isWhiteSpace c then skipVerboseFrom text fuel (pos + 1)
      else if c == '#' then
        match (text.toList.drop (pos + 1)).findIdx? (· == '\n') with
        | some k => skipVerboseFrom text fuel (pos + 1 + k + 1)
        | none => text.size
      else pos

/-- In verbose mode, skips blanks and comments. -/
def bumpSpace : ReadM Unit := do
  let r ← get
  if r.flags.verbose then
    set { r with pos := skipVerboseFrom r.text r.text.size r.pos }

/-- Moves one character on and skips blanks in verbose mode; false at the end. -/
def bumpAndBumpSpace : ReadM Bool := do
  if !(← bump) then return false
  bumpSpace
  return !(← atEnd)

/-- The character after the current one, skipping blanks in verbose mode. -/
def peekSpace : ReadM (Option Char) := do
  let r ← get
  if !r.flags.verbose then return r.text[r.pos + 1]?
  if r.pos ≥ r.text.size then return none
  let rest := r.text.toList.drop (r.pos + 1)
  let rec scan (inComment : Bool) : List Char → Option Char
    | [] => none
    | c :: more =>
      if isWhiteSpace c then scan inComment more
      else if !inComment && c == '#' then scan true more
      else some c
  match scan false rest with
  | some c => return some c
  | none => return r.text[r.pos + 1]?

/-- True when the text at the position starts with `word`; moves past it if so. -/
def bumpIf (word : String) : ReadM Bool := do
  let r ← get
  let chars := word.toList
  if (r.text.toList.drop r.pos).take chars.length == chars then
    set { r with pos := r.pos + chars.length }
    return true
  return false

/-- True when the text at the position starts with `word`. -/
def startsWith (word : String) : ReadM Bool := do
  let r ← get
  let chars := word.toList
  return (r.text.toList.drop r.pos).take chars.length == chars

end Reading

section Sets

def asciiRange (lo hi : Char) : CharRanges := CharRanges.ofList [(lo.toNat, hi.toNat)]

def asciiDigits : CharRanges := asciiRange '0' '9'

def asciiSpace : CharRanges := CharRanges.ofList [(9, 13), (32, 32)]

def asciiWord : CharRanges :=
  CharRanges.ofList [(0x30, 0x39), (0x41, 0x5A), (0x5F, 0x5F), (0x61, 0x7A)]

/-- All ASCII characters. -/
def asciiAll : CharRanges := CharRanges.ofList [(0, 0x7F)]

/-- The named ASCII classes of brackets, such as `[:alpha:]`. -/
def asciiClass? : String → Option CharRanges
  | "alnum" => some (CharRanges.ofList [(0x30, 0x39), (0x41, 0x5A), (0x61, 0x7A)])
  | "alpha" => some (CharRanges.ofList [(0x41, 0x5A), (0x61, 0x7A)])
  | "ascii" => some asciiAll
  | "blank" => some (CharRanges.ofList [(9, 9), (32, 32)])
  | "cntrl" => some (CharRanges.ofList [(0, 0x1F), (0x7F, 0x7F)])
  | "digit" => some asciiDigits
  | "graph" => some (CharRanges.ofList [(0x21, 0x7E)])
  | "lower" => some (CharRanges.ofList [(0x61, 0x7A)])
  | "print" => some (CharRanges.ofList [(0x20, 0x7E)])
  | "punct" => some (CharRanges.ofList [(0x21, 0x2F), (0x3A, 0x40), (0x5B, 0x60), (0x7B, 0x7E)])
  | "space" => some asciiSpace
  | "upper" => some (CharRanges.ofList [(0x41, 0x5A)])
  | "word" => some asciiWord
  | "xdigit" => some (CharRanges.ofList [(0x30, 0x39), (0x41, 0x46), (0x61, 0x66)])
  | _ => none

/-- Applies the case flag to a set: Unicode case closure, or ASCII closure without `u`. -/
def foldCase (flags : Flags) (set : CharRanges) : CharRanges :=
  if !flags.caseless then set
  else if flags.unicode then caseClosure set
  else asciiCaseClosure set

/-- Negates a set; without `u` the result must stay within ASCII. -/
def negateSet (flags : Flags) (set : CharRanges) : ReadM CharRanges := do
  let negated := set.complement
  if !flags.unicode && !(CharRanges.diff negated asciiAll).isEmpty then
    fail "class can match a byte outside ASCII"
  return negated

/-- A literal character under the flags: its case variants when case is ignored, else itself. -/
def literalRegex (flags : Flags) (c : Char) : Regex :=
  if !flags.caseless then .literal [c]
  else if flags.unicode then Regex.ofSet (caseClosure (CharRanges.single c))
  else if c.toNat < 0x80 && c.isAlpha then Regex.ofSet (asciiCaseClosure (CharRanges.single c))
  else .literal [c]

/-- The class `\d`, `\s` or `\w` under the flags, negated for the capital letter. -/
def perlClass (flags : Flags) (letter : Char) : ReadM CharRanges := do
  let base :=
    match letter.toLower, flags.unicode with
    | 'd', true => decimalDigits
    | 'd', false => asciiDigits
    | 's', true => whiteSpace
    | 's', false => asciiSpace
    | _, true => wordCharacters
    | _, false => asciiWord
  if letter.isUpper then negateSet flags base else return base

end Sets

section Escapes

def isHexDigit (c : Char) : Bool :=
  c.isDigit || ('a' ≤ c && c ≤ 'f') || ('A' ≤ c && c ≤ 'F')

def hexValue (digits : List Char) : Nat :=
  digits.foldl (fun acc c =>
    let d := if c.isDigit then c.toNat - '0'.toNat
      else if 'a' ≤ c && c ≤ 'f' then c.toNat - 'a'.toNat + 10
      else c.toNat - 'A'.toNat + 10
    acc * 16 + d) 0

/-- The character of a hex code, refused for surrogates and values past the last code point. -/
def charOfHex (digits : List Char) : ReadM Char := do
  if digits.length > 8 then fail "hex escape too large"
  let n := hexValue digits
  if n.isValidChar then return Char.ofNat n
  else fail "hex escape is not a character"

/-- Reads exactly `count` hex digits; the reader stands on the first. -/
def hexDigits (count : Nat) : ReadM Char := do
  let rec go : Nat → List Char → ReadM (List Char)
    | 0, acc => return acc.reverse
    | k + 1, acc => do
      if !acc.isEmpty then
        if !(← bumpAndBumpSpace) then fail "unexpected end in hex escape"
      match ← current with
      | some c => if isHexDigit c then go k (c :: acc) else fail "invalid hex digit"
      | none => fail "unexpected end in hex escape"
  let digits ← go count []
  let _ ← bumpAndBumpSpace
  charOfHex digits

/-- Reads a braced hex code `{…}`; the reader stands on the brace. -/
def hexBraced (fuel : Nat) : ReadM Char := do
  let rec go : Nat → List Char → ReadM (List Char)
    | 0, acc => return acc.reverse
    | k + 1, acc => do
      if !(← bumpAndBumpSpace) then return acc.reverse
      match ← current with
      | some '}' => return acc.reverse
      | some c => if isHexDigit c then go k (c :: acc) else fail "invalid hex digit"
      | none => return acc.reverse
  let digits ← go fuel []
  if ← atEnd then fail "unexpected end in hex escape"
  let _ ← bumpAndBumpSpace
  if digits.isEmpty then fail "empty hex escape"
  charOfHex digits

/-- After `\b`, reads `{start}`, `{end}`, `{start-half}` or `{end-half}` when present. -/
def specialWordBoundary? (fuel : Nat) : ReadM (Option (Bool → Look)) := do
  let start := (← get).pos
  let isNameChar := fun (c : Char) => c.isAlpha || c == '-'
  if !(← bumpAndBumpSpace) then fail "unexpected end after \\b\x7b"
  match ← current with
  | some c =>
    if !isNameChar c then
      modify fun r => { r with pos := start }
      return none
  | none => fail "unexpected end after \\b\x7b"
  let rec collect : Nat → List Char → ReadM (List Char)
    | 0, acc => return acc.reverse
    | k + 1, acc => do
      match ← current with
      | some c =>
        if isNameChar c then
          let _ ← bumpAndBumpSpace
          collect k (c :: acc)
        else return acc.reverse
      | none => return acc.reverse
  let name ← collect fuel []
  if (← current) != some '}' then fail "unclosed word boundary"
  let _ ← bump
  match String.ofList name with
  | "start" => return some Look.wordStart
  | "end" => return some Look.wordEnd
  | "start-half" => return some Look.wordStartHalf
  | "end-half" => return some Look.wordEndHalf
  | _ => fail "unknown word boundary"

/-- What stands between the braces of a property class; `!=` flips the negation. -/
def propertyQuery (text : String) (negated : Bool) : PropertyQuery × Bool :=
  match text.splitOn "!=" with
  | property :: value :: more => (.valued property ("!=".intercalate (value :: more)), !negated)
  | _ =>
    let chars := text.toList
    match chars.findIdx? (fun c => c == '=' || c == ':') with
    | some k =>
      (.valued (String.ofList (chars.take k)) (String.ofList (chars.drop (k + 1))), negated)
    | none => (.named text, negated)

/-- Reads a property class `\p{…}`, `\pL` or its negation with `P`, closed under case first. -/
def propertyClass (fuel : Nat) : ReadM CharRanges := do
  let flags := (← get).flags
  let negated := (← current) == some 'P'
  if !(← bumpAndBumpSpace) then fail "unexpected end in property class"
  let (query, negated) ← if (← current) == some '\x7b' then do
      let rec collect : Nat → List Char → ReadM (List Char)
        | 0, acc => return acc.reverse
        | k + 1, acc => do
          if !(← bumpAndBumpSpace) then return acc.reverse
          match ← current with
          | some '\x7d' => return acc.reverse
          | some c => collect k (c :: acc)
          | none => return acc.reverse
      let text ← collect fuel []
      if ← atEnd then fail "unexpected end in property class"
      let _ ← bump
      pure (propertyQuery (String.ofList text) negated)
    else do
      let some letter ← current | fail "unexpected end in property class"
      if letter == '\\' then fail "invalid property class"
      let _ ← bumpAndBumpSpace
      pure (PropertyQuery.letter letter, negated)
  if !flags.unicode then fail "property class without Unicode"
  let some set := query.class? | fail "unknown property class"
  let folded := foldCase flags set
  if negated then negateSet flags folded else return folded

/-- The characters that always name themselves after a backslash. -/
def isMetaCharacter (c : Char) : Bool :=
  "\\.+*?()|[]\x7b\x7d^$#&-~".toList.contains c

/-- Characters that may be escaped without meaning: meta characters and most ASCII punctuation. -/
def isEscapable (c : Char) : Bool :=
  isMetaCharacter c ||
    (c.toNat < 0x80 && !c.isAlphanum && c != '<' && c != '>')

/-- Reads an escape; the reader stands on the backslash. -/
def escape (fuel : Nat) : ReadM Primitive := do
  let flags := (← get).flags
  if !(← bump) then fail "unexpected end after backslash"
  let some c ← current | fail "unexpected end after backslash"
  if c.isDigit then fail "back-references are not supported"
  if c == 'x' || c == 'u' || c == 'U' then
    if !(← bumpAndBumpSpace) then fail "unexpected end in hex escape"
    let braced := (← current) == some '{'
    let ch ← if braced then hexBraced fuel
      else hexDigits (if c == 'x' then 2 else if c == 'u' then 4 else 8)
    -- Without `u`, two hex digits name a byte, and a byte past ASCII is no character.
    if !flags.unicode && c == 'x' && !braced && ch.toNat > 0x7F then
      fail "pattern can match invalid UTF-8"
    return .literal ch
  if c == 'p' || c == 'P' then return .set (← propertyClass fuel)
  if c == 'd' || c == 's' || c == 'w' || c == 'D' || c == 'S' || c == 'W' then
    let _ ← bump
    return .set (← perlClass flags c)
  let _ ← bump
  if isEscapable c then return .literal c
  match c with
  | 'a' => return .literal (Char.ofNat 7)
  | 'f' => return .literal (Char.ofNat 12)
  | 't' => return .literal '\t'
  | 'n' => return .literal '\n'
  | 'r' => return .literal '\r'
  | 'v' => return .literal (Char.ofNat 11)
  | 'A' => return .look .startText
  | 'z' => return .look .endText
  | 'b' =>
    if (← current) == some '{' then
      match ← specialWordBoundary? fuel with
      | some test => return .look (test flags.unicode)
      | none => return .look (.wordBoundary flags.unicode)
    else return .look (.wordBoundary flags.unicode)
  | 'B' =>
    -- Without `u` the negated test could hold inside a character.
    if !flags.unicode then fail "pattern can match invalid UTF-8"
    return .look (.notWordBoundary true)
  | '<' => return .look (.wordStart flags.unicode)
  | '>' => return .look (.wordEnd flags.unicode)
  | _ => fail "unrecognized escape"

end Escapes

section Classes

/-- The operations between the parts of a class. -/
inductive SetOp where
  | inter
  | diff
  | symmDiff
  deriving Inhabited

def SetOp.apply : SetOp → CharRanges → CharRanges → CharRanges
  | .inter, a, b => CharRanges.inter a b
  | .diff, a, b => CharRanges.diff a b
  | .symmDiff, a, b => CharRanges.symmDiff a b

/-- Tries `[:name:]` or `[:^name:]` at a `[`; on failure the reader stays where it was. -/
def asciiClassItem? : ReadM (Option CharRanges) := do
  let start ← get
  let restore : ReadM (Option CharRanges) := do set start; return none
  if !(← bump) then return ← restore
  if (← current) != some ':' then return ← restore
  if !(← bump) then return ← restore
  let mut negated := false
  if (← current) == some '^' then
    negated := true
    if !(← bump) then return ← restore
  let r ← get
  let rest := r.text.toList.drop r.pos
  match rest.findIdx? (· == ':') with
  | none => restore
  | some k =>
    let name := String.ofList (rest.take k)
    set { r with pos := r.pos + k }
    if !(← bumpIf ":]") then return ← restore
    match asciiClass? name with
    | none => restore
    | some cls =>
      let flags := (← get).flags
      let folded := foldCase flags cls
      if negated then return some (← negateSet flags folded) else return some folded

/-- A class item read as a primitive: an escape or a plain character. -/
def classPrimitive (fuel : Nat) : ReadM Primitive := do
  match ← current with
  | some '\\' => escape fuel
  | some c =>
    let _ ← bump
    return .literal c
  | none => fail "unclosed class"

def primitiveSet (flags : Flags) : Primitive → ReadM CharRanges
  | .literal c => do
    if !flags.unicode && c.toNat > 0x7F then fail "non-ASCII literal without Unicode"
    return CharRanges.single c
  | .set s => return s
  | .look _ => fail "position test inside a class"

/-- Reads a single item or a range `a-z`. -/
def classRange (fuel : Nat) : ReadM CharRanges := do
  let flags := (← get).flags
  let first ← classPrimitive fuel
  bumpSpace
  if ← atEnd then fail "unclosed class"
  let next ← peekSpace
  if (← current) != some '-' || next == some ']' || next == some '-' then
    return ← primitiveSet flags first
  if !(← bumpAndBumpSpace) then fail "unclosed class"
  let second ← classPrimitive fuel
  match first, second with
  | .literal lo, .literal hi =>
    if hi < lo then fail "invalid class range"
    if !flags.unicode && hi.toNat > 0x7F then fail "non-ASCII range without Unicode"
    return CharRanges.ofList [(lo.toNat, hi.toNat)]
  | _, _ => fail "class range end is not a literal"

/-- Reads a bracketed class from its `[`, with the case flag and the negation applied. -/
def bracketClass : Nat → ReadM (CharRanges × Nat)
  | 0 => fail "class nested too deeply"
  | fuel + 1 => do
    if !(← bumpAndBumpSpace) then fail "unclosed class"
    let mut negated := false
    if (← current) == some '^' then
      negated := true
      if !(← bumpAndBumpSpace) then fail "unclosed class"
    let mut leading : List (Nat × Nat) := []
    for _ in List.range fuel do
      if (← current) != some '-' then break
      leading := (0x2D, 0x2D) :: leading
      if !(← bumpAndBumpSpace) then fail "unclosed class"
    if leading.isEmpty && (← current) == some ']' then
      leading := [(0x5D, 0x5D)]
      if !(← bumpAndBumpSpace) then fail "unclosed class"
    let (body, inner) ←
      classBody fuel fuel none (CharRanges.ofList leading) (leading.map fun _ => 0)
    let flags := (← get).flags
    let folded := foldCase flags body
    let set ← if negated then negateSet flags folded else pure folded
    return (set, inner + 1)
where
  /-- The items up to the closing `]`, with any pending set operation and the depths read so far. -/
  classBody (depth : Nat) : Nat → Option (SetOp × CharRanges × Nat) → CharRanges → List Nat →
      ReadM (CharRanges × Nat)
    | 0, _, _, _ => fail "class too long"
    | steps + 1, pending, union, depths => do
      bumpSpace
      let flags := (← get).flags
      let close := fun (rhs : CharRanges) =>
        match pending with
        | none => rhs
        | some (op, lhs, _) => op.apply (foldCase flags lhs) (foldCase flags rhs)
      let closedDepth :=
        match pending with
        | none => nestedDepth depths
        | some (_, _, lhs) => 1 + max lhs (nestedDepth depths)
      match ← current with
      | none => fail "unclosed class"
      | some '[' =>
        match ← asciiClassItem? with
        | some cls => classBody depth steps pending (union.union cls) (0 :: depths)
        | none =>
          let (nested, inner) ← bracketClass depth
          classBody depth steps pending (union.union nested) (inner :: depths)
      | some ']' =>
        let _ ← bump
        return (close union, closedDepth)
      | some '&' =>
        if (← peekAt 1) == some '&' then
          let _ ← bumpIf "&&"
          classBody depth steps (some (.inter, close union, closedDepth)) CharRanges.empty []
        else
          let item ← classRange depth
          classBody depth steps pending (union.union item) (0 :: depths)
      | some '-' =>
        if (← peekAt 1) == some '-' then
          let _ ← bumpIf "--"
          classBody depth steps (some (.diff, close union, closedDepth)) CharRanges.empty []
        else
          let item ← classRange depth
          classBody depth steps pending (union.union item) (0 :: depths)
      | some '~' =>
        if (← peekAt 1) == some '~' then
          let _ ← bumpIf "~~"
          classBody depth steps (some (.symmDiff, close union, closedDepth)) CharRanges.empty []
        else
          let item ← classRange depth
          classBody depth steps pending (union.union item) (0 :: depths)
      | some _ =>
        let item ← classRange depth
        classBody depth steps pending (union.union item) (0 :: depths)

end Classes

section Structure

/-- Reads the digits of a repetition count, with blanks allowed around them. -/
def decimal : ReadM Nat := do
  let r ← get
  let rest := r.text.toList.drop r.pos
  let lead := (rest.takeWhile isWhiteSpace).length
  set { r with pos := r.pos + lead }
  let mut digits : List Char := []
  for _ in List.range rest.length do
    match ← current with
    | some c =>
      if c.isDigit then
        digits := c :: digits
        let _ ← bumpAndBumpSpace
      else break
    | none => break
  let r ← get
  let trail := ((r.text.toList.drop r.pos).takeWhile isWhiteSpace).length
  set { r with pos := r.pos + trail }
  if digits.isEmpty then fail "missing repetition count"
  let value := digits.reverse.foldl (fun acc c => acc * 10 + (c.toNat - '0'.toNat)) 0
  if value ≥ Nat.pow 2 32 then fail "repetition count too large"
  return value

/-- The element a repetition applies to: the last one, which must be a regular expression. -/
def popOperand (items : List Element) : ReadM (Regex × Nat × List Element) :=
  match items with
  | .regex r depth :: rest => return (r, depth, rest)
  | _ => fail "repetition operator missing expression"

/-- Applies `?`, `*` or `+`; the reader stands on the operator. -/
def uncountedRepetition (items : List Element) (min : Nat) (max : Option Nat) :
    ReadM (List Element) := do
  let (operand, depth, rest) ← popOperand items
  let flags := (← get).flags
  let mut greedy := true
  if (← bump) && (← current) == some '?' then
    greedy := false
    let _ ← bump
  let prefersMore := if flags.swapGreed then !greedy else greedy
  return .regex (Regex.loop operand min max prefersMore) (depth + 1) :: rest

/-- Applies `{n}`, `{n,}` or `{n,m}`; the reader stands on the brace. -/
def countedRepetition (items : List Element) : ReadM (List Element) := do
  let (operand, depth, rest) ← popOperand items
  let flags := (← get).flags
  if !(← bumpAndBumpSpace) then fail "unclosed repetition"
  let low ← decimal
  let mut high : Option Nat := some low
  if ← atEnd then fail "unclosed repetition"
  if (← current) == some ',' then
    if !(← bumpAndBumpSpace) then fail "unclosed repetition"
    if (← current) != some '}' then
      high := some (← decimal)
    else
      high := none
  if (← atEnd) || (← current) != some '}' then fail "unclosed repetition"
  let mut greedy := true
  if (← bumpAndBumpSpace) && (← current) == some '?' then
    greedy := false
    let _ ← bump
  match high with
  | some h => if h < low then fail "invalid repetition range"
  | none => pure ()
  let prefersMore := if flags.swapGreed then !greedy else greedy
  return .regex (Regex.loop operand low high prefersMore) (depth + 1) :: rest

/-- Whether a character may stand in a capture name (first or later position). -/
def isNameChar (c : Char) (first : Bool) : Bool :=
  c == '_' || c.isAlpha || (c.toNat > 0x7F && wordCharacters.contains c) ||
    (!first && (c.isDigit || c == '.' || c == '[' || c == ']'))

/-- Reads a capture name up to `>`. -/
def captureName : ReadM Unit := do
  if ← atEnd then fail "unexpected end in group name"
  let r ← get
  let rest := r.text.toList.drop r.pos
  match rest.findIdx? (· == '>') with
  | none =>
    let ok := rest.zipIdx.all fun (c, i) => isNameChar c (i == 0)
    if ok then fail "unexpected end in group name" else fail "invalid group name"
  | some k =>
    let name := rest.take k
    if !(name.zipIdx.all fun (c, i) => isNameChar c (i == 0)) then fail "invalid group name"
    if name.isEmpty then fail "empty group name"
    let text := String.ofList name
    if r.names.contains text then fail "duplicate group name"
    set { r with pos := r.pos + k + 1, names := text :: r.names }

/-- Reads flags up to `:` or `)`, returning the updated flags and whether any was given. -/
def flagItems (flags : Flags) : ReadM (Flags × Bool) := do
  let mut result := flags
  let mut seen : List Char := []
  let mut negating := false
  let mut lastWasNegation := false
  for _ in List.range (← get).text.size do
    let some c ← current | fail "unexpected end in flags"
    if c == ':' || c == ')' then
      break
    else
      if c == '-' then
        if seen.contains '-' then fail "repeated negation in flags"
        seen := '-' :: seen
        negating := true
        lastWasNegation := true
      else
        lastWasNegation := false
        if seen.contains c then fail "duplicate flag"
        seen := c :: seen
        let on := !negating
        match c with
        | 'i' => result := { result with caseless := on }
        | 'm' => result := { result with multiLine := on }
        | 's' => result := { result with dotAll := on }
        | 'U' => result := { result with swapGreed := on }
        | 'u' => result := { result with unicode := on }
        | 'R' => result := { result with crlf := on }
        | 'x' => result := { result with verbose := on }
        | _ => fail "unrecognized flag"
      if !(← bump) then fail "unexpected end in flags"
  if lastWasNegation then fail "dangling flag negation"
  return (result, !seen.isEmpty)

/-- The set that `.` matches under the flags. -/
def dotSet (flags : Flags) : ReadM CharRanges := do
  if !flags.unicode then fail "dot can match a byte outside ASCII"
  if flags.dotAll then return CharRanges.full
  if flags.crlf then return (CharRanges.ofList [(10, 10), (13, 13)]).complement
  return (CharRanges.single '\n').complement

/-- Builds a regular expression from a concatenation's elements (kept in reverse). -/
def finishConcat (items : List Element) : Regex × Nat :=
  let parts := items.reverse.filterMap fun
    | .regex r _ => some r
    | .directive => none
  let depths := items.map fun
    | .regex _ depth => depth
    | .directive => 0
  (Regex.seq parts, nestedDepth depths)

mutual

/-- Reads branches separated by `|` up to `)` or the end, with their nesting depth. -/
def alternation : Nat → ReadM (Regex × Nat)
  | 0 => fail "pattern nested too deeply"
  | fuel + 1 => do
    let first ← concatenation fuel fuel []
    let mut branches := [first]
    for _ in List.range (← get).text.size do
      if (← current) != some '|' then break
      let _ ← bump
      let next ← concatenation fuel fuel []
      branches := next :: branches
    let depth := nestedDepth (branches.map (·.2))
    match branches with
    | [single] => return single
    | _ => return (Regex.choice (branches.reverse.map (·.1)), depth)

/-- Reads elements up to `|`, `)` or the end. -/
def concatenation : Nat → Nat → List Element → ReadM (Regex × Nat)
  | _, 0, _ => fail "pattern too long"
  | depth, steps + 1, items => do
    bumpSpace
    let flags := (← get).flags
    match ← current with
    | none => return finishConcat items
    | some '|' => return finishConcat items
    | some ')' => return finishConcat items
    | some '(' =>
      let items ← group depth items
      concatenation depth steps items
    | some '[' =>
      let set ← bracketClass depth
      concatenation depth steps (.regex (Regex.ofSet set.1) set.2 :: items)
    | some '?' => concatenation depth steps (← uncountedRepetition items 0 (some 1))
    | some '*' => concatenation depth steps (← uncountedRepetition items 0 none)
    | some '+' => concatenation depth steps (← uncountedRepetition items 1 none)
    | some '{' => concatenation depth steps (← countedRepetition items)
    | some '\\' =>
      let leaf := match ← escape depth with
        | .literal c => literalRegex flags c
        | .set s => Regex.ofSet s
        | .look test => Regex.look test
      concatenation depth steps (.regex leaf 0 :: items)
    | some '.' =>
      let _ ← bump
      concatenation depth steps (.regex (Regex.ofSet (← dotSet flags)) 0 :: items)
    | some '^' =>
      let _ ← bump
      let test := if !flags.multiLine then Look.startText
        else if flags.crlf then Look.startLineCrlf else Look.startLine
      concatenation depth steps (.regex (.look test) 0 :: items)
    | some '$' =>
      let _ ← bump
      let test := if !flags.multiLine then Look.endText
        else if flags.crlf then Look.endLineCrlf else Look.endLine
      concatenation depth steps (.regex (.look test) 0 :: items)
    | some c =>
      let _ ← bump
      concatenation depth steps (.regex (literalRegex flags c) 0 :: items)

/-- Reads a group or a flag directive; the reader stands on `(`. -/
def group : Nat → List Element → ReadM (List Element)
  | 0, _ => fail "pattern nested too deeply"
  | depth + 1, items => do
    let outer := (← get).flags
    let _ ← bump
    bumpSpace
    if (← startsWith "?=") || (← startsWith "?!") || (← startsWith "?<=") ||
        (← startsWith "?<!") then
      fail "look-around is not supported"
    let mut inner := outer
    let mut capturing := true
    if (← bumpIf "?P<") || (← bumpIf "?<") then
      captureName
    else if ← bumpIf "?" then
      capturing := false
      if ← atEnd then fail "unclosed group"
      let (flags, any) ← flagItems outer
      let closing ← current
      let _ ← bump
      if closing == some ')' then
        if !any then fail "repetition operator missing expression"
        modify fun r => { r with flags := flags }
        return .directive :: items
      inner := flags
    modify fun r => { r with flags := inner }
    let (body, bodyDepth) ← alternation depth
    if (← current) != some ')' then fail "unclosed group"
    let _ ← bump
    modify fun r => { r with flags := outer }
    return .regex (if capturing then .capture body else body) (bodyDepth + 1) :: items

end

end Structure

/-- Reads a pattern, or fails with the reason. -/
def parse (pattern : String) : Except String Regex := do
  let text := pattern.toList.toArray
  let fuel := 2 * text.size + 4
  let start : Reader := { text := text, pos := 0, flags := {}, names := [] }
  let ((regex, depth), finish) ← (alternation fuel).run start
  if finish.pos < text.size then throw "unopened group"
  if depth > nestLimit then throw "pattern nested too deeply"
  return regex

end NamingDirectory.Pattern
