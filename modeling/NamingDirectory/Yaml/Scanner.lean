import NamingDirectory.Yaml.Token

/-!
Cutting YAML text into tokens, block structure found from indentation.
-/

namespace NamingDirectory.Yaml

/-- Where a simple key could start. -/
structure SimpleKey where
  possible : Bool := false
  required : Bool := false
  tokenNumber : Nat := 0
  mark : Mark := ⟨0, 0, 0, 0⟩
  deriving Repr, Inhabited

/-- The scanner's state: text, position, tokens, flow depth, block indentations and simple keys. -/
structure Scanner where
  input : Array Char
  mark : Mark := ⟨0, 0, 0, 0⟩
  tokens : Array Token := #[]
  flowLevel : Nat := 0
  indent : Int := -1
  indents : List Int := []
  simpleKeyAllowed : Bool := true
  simpleKeys : List SimpleKey := [{}]
  deriving Inhabited

/-- Scanning steps; a failure carries the reason. -/
abbrev ScanM := StateT Scanner (Except String)

namespace Scanner

/-- The character `k` places ahead, or the end mark. -/
def peekAt (k : Nat) : ScanM Char := do
  let s ← get
  pure (s.input.getD (s.mark.index + k) endMark)

/-- The current character. -/
def current : ScanM Char := peekAt 0

/-- The current column. -/
def column : ScanM Int := do pure (Int.ofNat (← get).mark.column)

/-- A bound on the steps of any loop. -/
def fuel : ScanM Nat := do pure ((← get).input.size + 2)

/-- The bytes of the UTF-8 encoding of `count` characters from the position `index`. -/
def encodedWidth (input : Array Char) (index count : Nat) : Nat :=
  ((List.range count).map fun k => (input.getD (index + k) endMark).utf8Size).foldl (· + ·) 0

/-- Moves over one character of a line. -/
def skip : ScanM Unit :=
  modify fun s =>
    let m := s.mark
    { s with mark := ⟨m.index + 1, m.line, m.column + 1, m.offset + encodedWidth s.input m.index 1⟩ }

/-- Moves to the next line over `width` characters. -/
def newLine (width : Nat) : ScanM Unit :=
  modify fun s => { s with mark := ⟨s.mark.index + width, s.mark.line + 1, 0,
    s.mark.offset + encodedWidth s.input s.mark.index width⟩ }

/-- Moves over a line break, if there is one. -/
def skipLine : ScanM Unit := do
  let c ← current
  if c == '\r' && (← peekAt 1) == '\n' then newLine 2
  else if isBreak c then newLine 1

/-- Reads a line break: the line separators stay, every other break reads as a line feed. -/
def readLine : ScanM String := do
  let c ← current
  if c == '\r' && (← peekAt 1) == '\n' then newLine 2; pure "\n"
  else if c == '\u2028' || c == '\u2029' then newLine 1; pure c.toString
  else if isBreak c then newLine 1; pure "\n"
  else pure ""

/-- Skips characters while they satisfy a test. -/
def skipWhile (p : Char → Bool) : ScanM Unit := do
  for _ in List.range (← fuel) do
    if p (← current) then skip else break

/-- Reads characters while they satisfy a test. -/
def readWhile (p : Char → Bool) : ScanM String := do
  let mut text := ""
  for _ in List.range (← fuel) do
    let c ← current
    if p c then
      text := text.push c
      skip
    else break
  pure text

/-- Appends a token. -/
def emit (t : Token) : ScanM Unit := modify fun s => { s with tokens := s.tokens.push t }

/-- Inserts a token at a place in the token list. -/
def insertToken (n : Nat) (t : Token) : ScanM Unit :=
  modify fun s => { s with tokens := s.tokens.extract 0 n ++ #[t] ++ s.tokens.extract n s.tokens.size }

/-- Forgets the possible simple key of the current flow level; a required one is an error. -/
def removeSimpleKey : ScanM Unit := do
  let s ← get
  match s.simpleKeys with
  | top :: rest =>
    if top.possible && top.required then throw "could not find expected ':'"
    set { s with simpleKeys := { top with possible := false } :: rest }
  | [] => pure ()

/-- Remembers that a simple key may start here. -/
def saveSimpleKey : ScanM Unit := do
  let s ← get
  let required := s.flowLevel == 0 && s.indent == Int.ofNat s.mark.column
  if s.simpleKeyAllowed then
    let key : SimpleKey := ⟨true, required, s.tokens.size, s.mark⟩
    removeSimpleKey
    modify fun s => { s with simpleKeys := key :: s.simpleKeys.drop 1 }

/-- Drops simple keys that can no longer be keys; a required one is an error. -/
def staleSimpleKeys : ScanM Unit := do
  let s ← get
  let keys ← s.simpleKeys.mapM fun key =>
    if key.possible && (key.mark.line < s.mark.line || key.mark.offset + 1024 < s.mark.offset) then
      if key.required then throw "could not find expected ':'"
      else pure { key with possible := false }
    else pure key
  set { s with simpleKeys := keys }

/-- Enters a flow collection. -/
def increaseFlowLevel : ScanM Unit :=
  modify fun s => { s with simpleKeys := {} :: s.simpleKeys, flowLevel := s.flowLevel + 1 }

/-- Leaves a flow collection. -/
def decreaseFlowLevel : ScanM Unit :=
  modify fun s =>
    if s.flowLevel > 0 then { s with simpleKeys := s.simpleKeys.drop 1, flowLevel := s.flowLevel - 1 }
    else s

/-- Opens a block collection at a deeper column, its start token at the end or a remembered place. -/
def rollIndent (col : Int) (place : Option Nat) (t : Token) : ScanM Unit := do
  let s ← get
  if s.flowLevel == 0 && s.indent < col then
    set { s with indents := s.indent :: s.indents, indent := col }
    match place with
    | none => emit t
    | some n => insertToken n t

/-- Closes the block collections deeper than a column. -/
def unrollIndent (col : Int) : ScanM Unit := do
  let s ← get
  if s.flowLevel == 0 then
    for _ in List.range (s.indents.length + 1) do
      let s ← get
      if s.indent > col then
        set { s with indent := s.indents.headD (-1), indents := s.indents.drop 1 }
        emit .blockEnd
      else break

/-- Skips blanks, comments and breaks to the next token; tabs only where no simple key may start. -/
def skipToToken : ScanM Unit := do
  for _ in List.range (← fuel) do
    if (← get).mark.column == 0 && (← current) == '\uFEFF' then skip
    for _ in List.range (← fuel) do
      let c ← current
      let s ← get
      if c == ' ' || ((s.flowLevel > 0 || !s.simpleKeyAllowed) && c == '\t') then skip else break
    if (← current) == '#' then skipWhile (!isBreakOrEnd ·)
    if isBreak (← current) then
      skipLine
      if (← get).flowLevel == 0 then modify fun s => { s with simpleKeyAllowed := true }
    else break

/-- Reads a version number of at most nine digits. -/
def versionNumber : ScanM Nat := do
  let digits ← readWhile Char.isDigit
  if digits.isEmpty then throw "did not find expected version number"
  if digits.length > 9 then throw "found extremely long version number"
  pure (digits.foldl (fun acc c => acc * 10 + (c.toNat - '0'.toNat)) 0)

/-- Reads a tag handle: `!`, `!!` or `!word!`. In a directive it must be one of these. -/
def tagHandle (directive : Bool) : ScanM String := do
  if (← current) != '!' then throw "did not find expected '!'"
  skip
  let word ← readWhile isWordChar
  if (← current) == '!' then
    skip
    pure ("!" ++ word ++ "!")
  else
    if directive && !word.isEmpty then throw "did not find expected '!'"
    pure ("!" ++ word)

/-- Characters that may appear in a tag; in a verbatim tag also `,`, `[` and `]`. -/
def isUriChar (verbatim : Bool) (c : Char) : Bool :=
  isWordChar c || ";/?:@&=+$.%!~*'()".toList.contains c ||
    (verbatim && (c == ',' || c == '[' || c == ']'))

/-- Decodes `%XX` escapes of a tag, which must form UTF-8 characters. -/
def uriEscapes : ScanM String := do
  let mut bytes : Array UInt8 := #[]
  let mut width := 0
  for _ in List.range 4 do
    if (← current) != '%' then throw "did not find URI escaped octet"
    let some hi := hexDigit? (← peekAt 1) | throw "did not find URI escaped octet"
    let some lo := hexDigit? (← peekAt 2) | throw "did not find URI escaped octet"
    let octet := hi * 16 + lo
    if width == 0 then
      width := if octet < 0x80 then 1 else if octet / 32 == 6 then 2
        else if octet / 16 == 14 then 3 else if octet / 8 == 30 then 4 else 0
      if width == 0 then throw "found an incorrect leading UTF-8 octet"
    else if octet / 64 != 2 then throw "found an incorrect trailing UTF-8 octet"
    bytes := bytes.push octet.toUInt8
    skip; skip; skip
    if bytes.size == width then break
  match String.fromUTF8? (ByteArray.mk bytes) with
  | some text => pure text
  | none => throw "found an incorrect UTF-8 sequence"

/-- Reads a tag's characters after its handle; `head` is a handle that was part of the tag. -/
def tagUri (verbatim : Bool) (head : String) : ScanM String := do
  let mut text := head.drop 1 |>.toString
  let mut length := head.length
  for _ in List.range (← fuel) do
    let c ← current
    if !isUriChar verbatim c then break
    if c == '%' then text := text ++ (← uriEscapes)
    else
      text := text.push c
      skip
    length := length + 1
  if length == 0 then throw "did not find expected tag URI"
  pure text

/-- Reads a directive line: `%YAML major.minor` or `%TAG handle prefix`. -/
def directive : ScanM Token := do
  skip
  let name ← readWhile isWordChar
  if name.isEmpty then throw "could not find expected directive name"
  if !isBlankOrEnd (← current) then throw "found unexpected non-alphabetical character"
  let token ← if name == "YAML" then do
      skipWhile isBlank
      let major ← versionNumber
      if (← current) != '.' then throw "did not find expected digit or '.' character"
      skip
      let minor ← versionNumber
      pure (Token.versionDirective major minor)
    else if name == "TAG" then do
      skipWhile isBlank
      let handle ← tagHandle true
      if !isBlank (← current) then throw "did not find expected whitespace"
      skipWhile isBlank
      let tagPrefix ← tagUri true ""
      if !isBlankOrEnd (← current) then throw "did not find expected whitespace or line break"
      pure (Token.tagDirective handle tagPrefix)
    else throw "found unknown directive name"
  skipWhile isBlank
  if (← current) == '#' then skipWhile (!isBreakOrEnd ·)
  if !isBreakOrEnd (← current) then throw "did not find expected comment or line break"
  skipLine
  pure token

/-- Reads an anchor or alias name after its indicator. -/
def anchorName : ScanM String := do
  skip
  let name ← readWhile isWordChar
  let c ← current
  if name.isEmpty || !(isBlankOrEnd c || "?:,]\x7d%@`".toList.contains c) then
    throw "did not find expected alphabetic or numeric character"
  pure name

/-- Reads a tag: verbatim `!<...>`, `!handle!suffix`, `!suffix`, or `!` alone. -/
def tag : ScanM Token := do
  let (handle, suffix) ← if (← peekAt 1) == '<' then do
      skip; skip
      let suffix ← tagUri true ""
      if (← current) != '>' then throw "did not find the expected '>'"
      skip
      pure ("", suffix)
    else do
      let handle ← tagHandle false
      if handle.length > 1 && handle.endsWith "!" then
        pure (handle, ← tagUri false "")
      else
        let suffix ← tagUri false handle
        if suffix.isEmpty then pure ("", "!") else pure ("!", suffix)
  let c ← current
  if !isBlankOrEnd c && !((← get).flowLevel > 0 && c == ',') then
    throw "did not find expected whitespace or line break"
  pure (.tag handle suffix)

/-- Reads the breaks and indentation before a block scalar's lines, fixing the indentation. -/
def blockScalarBreaks (indent : Nat) : ScanM (Nat × String) := do
  let mut breaks := ""
  let mut maxIndent := 0
  for _ in List.range (← fuel) do
    for _ in List.range (← fuel) do
      if (indent == 0 || (← get).mark.column < indent) && (← current) == ' ' then skip else break
    maxIndent := max maxIndent (← get).mark.column
    if (indent == 0 || (← get).mark.column < indent) && (← current) == '\t' then
      throw "found a tab character where an indentation space is expected"
    if !isBreak (← current) then break
    breaks := breaks ++ (← readLine)
  if indent == 0 then
    let outer := (← get).indent
    pure (max (max maxIndent (outer + 1).toNat) 1, breaks)
  else pure (indent, breaks)

/-- Reads a literal or folded block scalar with its chomping and indentation indicators. -/
def blockScalar (literal : Bool) : ScanM Token := do
  skip
  let mut chomping : Int := 0
  let mut increment := 0
  let c ← current
  if c == '+' || c == '-' then
    chomping := if c == '+' then 1 else -1
    skip
    if (← current).isDigit then
      if (← current) == '0' then throw "found an indentation indicator equal to 0"
      increment := (← current).toNat - '0'.toNat
      skip
  else if c.isDigit then
    if c == '0' then throw "found an indentation indicator equal to 0"
    increment := c.toNat - '0'.toNat
    skip
    let d ← current
    if d == '+' || d == '-' then
      chomping := if d == '+' then 1 else -1
      skip
  skipWhile isBlank
  if (← current) == '#' then skipWhile (!isBreakOrEnd ·)
  if !isBreakOrEnd (← current) then throw "did not find expected comment or line break"
  skipLine
  let outer := (← get).indent
  let mut indent : Nat := 0
  if increment > 0 then
    indent := if outer ≥ 0 then outer.toNat + increment else increment
  let (found, firstBreaks) ← blockScalarBreaks indent
  indent := found
  let mut trailingBreaks := firstBreaks
  let mut text := ""
  let mut leadingBreak := ""
  let mut leadingBlank := false
  for _ in List.range (← fuel) do
    if (← get).mark.column != indent || isEnd (← current) then break
    let trailingBlank := isBlank (← current)
    if !literal && leadingBreak.startsWith "\n" && !leadingBlank && !trailingBlank then
      if trailingBreaks.isEmpty then text := text.push ' '
      leadingBreak := ""
    else
      text := text ++ leadingBreak
      leadingBreak := ""
    text := text ++ trailingBreaks
    trailingBreaks := ""
    leadingBlank := isBlank (← current)
    text := text ++ (← readWhile (!isBreakOrEnd ·))
    leadingBreak := ← readLine
    let (_, breaks) ← blockScalarBreaks indent
    trailingBreaks := breaks
  if chomping != -1 then text := text ++ leadingBreak
  if chomping == 1 then text := text ++ trailingBreaks
  pure (.scalar text (if literal then .literal else .folded))

/-- Whether `---` or `...` starts the line here, followed by a blank or a break. -/
def atDocumentMarker : ScanM Bool := do
  if (← get).mark.column != 0 then return false
  let c0 ← peekAt 0
  let c1 ← peekAt 1
  let c2 ← peekAt 2
  pure (((c0 == '-' && c1 == '-' && c2 == '-') || (c0 == '.' && c1 == '.' && c2 == '.')) &&
    isBlankOrEnd (← peekAt 3))

/-- The character a double-quoted escape stands for, or the number of hex digits it takes. -/
def escape? (c : Char) : Option (Sum Char Nat) :=
  match c with
  | '0' => some (.inl (Char.ofNat 0))
  | 'a' => some (.inl (Char.ofNat 7))
  | 'b' => some (.inl (Char.ofNat 8))
  | 't' => some (.inl '\t')
  | '\t' => some (.inl '\t')
  | 'n' => some (.inl '\n')
  | 'v' => some (.inl (Char.ofNat 11))
  | 'f' => some (.inl (Char.ofNat 12))
  | 'r' => some (.inl '\r')
  | 'e' => some (.inl (Char.ofNat 27))
  | ' ' => some (.inl ' ')
  | '"' => some (.inl '"')
  | '/' => some (.inl '/')
  | '\'' => some (.inl '\'')
  | '\\' => some (.inl '\\')
  | 'N' => some (.inl '\u0085')
  | '_' => some (.inl '\u00A0')
  | 'L' => some (.inl '\u2028')
  | 'P' => some (.inl '\u2029')
  | 'x' => some (.inr 2)
  | 'u' => some (.inr 4)
  | 'U' => some (.inr 8)
  | _ => none

/-- Reads a single- or double-quoted scalar, folding its line breaks. -/
def flowScalar (single : Bool) : ScanM Token := do
  let quote := if single then '\'' else '"'
  skip
  let mut text := ""
  let mut leadingBreak := ""
  let mut trailingBreaks := ""
  let mut whitespaces := ""
  for _ in List.range (← fuel) do
    if ← atDocumentMarker then throw "found unexpected document indicator"
    if isEnd (← current) then throw "found unexpected end of stream"
    let mut leadingBlanks := false
    for _ in List.range (← fuel) do
      let c ← current
      if isBlankOrEnd c then break
      let d ← peekAt 1
      if single && c == '\'' && d == '\'' then
        text := text.push '\''
        skip; skip
      else if c == quote then break
      else if !single && c == '\\' && isBreak d then
        skip
        skipLine
        leadingBlanks := true
        break
      else if !single && c == '\\' then
        match escape? d with
        | none => throw "found unknown escape character"
        | some (.inl e) =>
          text := text.push e
          skip; skip
        | some (.inr width) =>
          skip; skip
          let mut code := 0
          for k in List.range width do
            match hexDigit? (← peekAt k) with
            | some v => code := code * 16 + v
            | none => throw "did not find expected hexdecimal number"
          if (0xD800 ≤ code && code ≤ 0xDFFF) || code > 0x10FFFF then
            throw "found invalid Unicode character escape code"
          text := text.push (Char.ofNat code)
          for _ in List.range width do skip
      else
        text := text.push c
        skip
    if (← current) == quote then break
    for _ in List.range (← fuel) do
      let c ← current
      if isBlank c then
        if !leadingBlanks then whitespaces := whitespaces.push c
        skip
      else if isBreak c then
        if !leadingBlanks then
          whitespaces := ""
          leadingBreak := ← readLine
          leadingBlanks := true
        else trailingBreaks := trailingBreaks ++ (← readLine)
      else break
    if leadingBlanks then
      if leadingBreak.startsWith "\n" then
        if trailingBreaks.isEmpty then text := text.push ' '
        else text := text ++ trailingBreaks
      else text := text ++ leadingBreak ++ trailingBreaks
      leadingBreak := ""
      trailingBreaks := ""
    else
      text := text ++ whitespaces
      whitespaces := ""
  skip
  pure (.scalar text (if single then .singleQuoted else .doubleQuoted))

/-- Reads a plain scalar up to `: `, ` #`, a document marker, a shallower line or a flow indicator. -/
def plainScalar : ScanM Token := do
  let indent := (← get).indent + 1
  let mut text := ""
  let mut leadingBreak := ""
  let mut trailingBreaks := ""
  let mut whitespaces := ""
  let mut leadingBlanks := false
  for _ in List.range (← fuel) do
    if ← atDocumentMarker then break
    if (← current) == '#' then break
    for _ in List.range (← fuel) do
      let c ← current
      if isBlankOrEnd c then break
      let d ← peekAt 1
      let flow := (← get).flowLevel > 0
      if flow && c == ':' && ",?[]\x7b\x7d".toList.contains d then throw "found unexpected ':'"
      if (c == ':' && isBlankOrEnd d) || (flow && ",[]\x7b\x7d".toList.contains c) then break
      if leadingBlanks || !whitespaces.isEmpty then
        if leadingBlanks then
          if leadingBreak.startsWith "\n" then
            if trailingBreaks.isEmpty then text := text.push ' '
            else text := text ++ trailingBreaks
          else text := text ++ leadingBreak ++ trailingBreaks
          leadingBreak := ""
          trailingBreaks := ""
          leadingBlanks := false
        else
          text := text ++ whitespaces
          whitespaces := ""
      text := text.push c
      skip
    let c ← current
    if !(isBlank c || isBreak c) then break
    for _ in List.range (← fuel) do
      let c ← current
      if isBlank c then
        if leadingBlanks && (← column) < indent && c == '\t' then
          throw "found a tab character that violates indentation"
        if !leadingBlanks then whitespaces := whitespaces.push c
        skip
      else if isBreak c then
        if !leadingBlanks then
          whitespaces := ""
          leadingBreak := ← readLine
          leadingBlanks := true
        else trailingBreaks := trailingBreaks ++ (← readLine)
      else break
    if (← get).flowLevel == 0 && (← column) < indent then break
  if leadingBlanks then modify fun s => { s with simpleKeyAllowed := true }
  pure (.scalar text .plain)

/-- The `:` of a mapping value: it completes a remembered simple key, or follows a `?` key. -/
def fetchValue : ScanM Unit := do
  let s ← get
  let key := s.simpleKeys.headD {}
  if key.possible then
    insertToken key.tokenNumber .key
    rollIndent (Int.ofNat key.mark.column) (some key.tokenNumber) .blockMappingStart
    modify fun s => { s with simpleKeys := { key with possible := false } :: s.simpleKeys.drop 1,
                             simpleKeyAllowed := false }
  else
    if s.flowLevel == 0 then
      if !s.simpleKeyAllowed then throw "mapping values are not allowed in this context"
      rollIndent (← column) none .blockMappingStart
    modify fun s => { s with simpleKeyAllowed := s.flowLevel == 0 }
  skip
  emit .value

/-- Scans the next token. Returns whether the end of the stream was reached. -/
def fetchNext : ScanM Bool := do
  skipToToken
  staleSimpleKeys
  unrollIndent (← column)
  let c ← current
  let d ← peekAt 1
  let s ← get
  let flow := s.flowLevel > 0
  let setAllowed := fun (b : Bool) => modify fun s => { s with simpleKeyAllowed := b }
  if isEnd c then
    if s.mark.column != 0 then
      modify fun s => { s with mark := { s.mark with column := 0, line := s.mark.line + 1 } }
    unrollIndent (-1)
    removeSimpleKey
    setAllowed false
    emit .streamEnd
    return true
  if s.mark.column == 0 && c == '%' then
    unrollIndent (-1)
    removeSimpleKey
    setAllowed false
    emit (← directive)
  else if ← atDocumentMarker then
    unrollIndent (-1)
    removeSimpleKey
    setAllowed false
    skip; skip; skip
    emit (if c == '-' then .documentStart else .documentEnd)
  else if c == '[' || c == '{' then
    saveSimpleKey
    increaseFlowLevel
    setAllowed true
    skip
    emit (if c == '[' then .flowSequenceStart else .flowMappingStart)
  else if c == ']' || c == '}' then
    removeSimpleKey
    decreaseFlowLevel
    setAllowed false
    skip
    emit (if c == ']' then .flowSequenceEnd else .flowMappingEnd)
  else if c == ',' then
    removeSimpleKey
    setAllowed true
    skip
    emit .flowEntry
  else if c == '-' && isBlankOrEnd d then
    if !flow then
      if !s.simpleKeyAllowed then throw "block sequence entries are not allowed in this context"
      rollIndent (← column) none .blockSequenceStart
    removeSimpleKey
    setAllowed true
    skip
    emit .blockEntry
  else if c == '?' && (flow || isBlankOrEnd d) then
    if !flow then
      if !s.simpleKeyAllowed then throw "mapping keys are not allowed in this context"
      rollIndent (← column) none .blockMappingStart
    removeSimpleKey
    setAllowed (!flow)
    skip
    emit .key
  else if c == ':' && (flow || isBlankOrEnd d) then
    fetchValue
  else if c == '*' || c == '&' then
    saveSimpleKey
    setAllowed false
    let name ← anchorName
    emit (if c == '*' then .alias name else .anchor name)
  else if c == '!' then
    saveSimpleKey
    setAllowed false
    emit (← tag)
  else if (c == '|' || c == '>') && !flow then
    removeSimpleKey
    setAllowed true
    emit (← blockScalar (c == '|'))
  else if c == '\'' || c == '"' then
    saveSimpleKey
    setAllowed false
    emit (← flowScalar (c == '\''))
  else if !(isBlankOrEnd c || "-?:,[]\x7b\x7d#&*!|>'\"%@`".toList.contains c) ||
      (c == '-' && !isBlank d) || (!flow && (c == '?' || c == ':') && !isBlankOrEnd d) then
    saveSimpleKey
    setAllowed false
    emit (← plainScalar)
  else throw "found character that cannot start any token"
  return false

end Scanner

/-- The tokens of a YAML text; a leading byte order mark is ignored. -/
def scan (text : String) : Except String (Array Token) :=
  let chars := match text.toList with
    | '\uFEFF' :: rest => rest
    | chars => chars
  if !chars.all isAllowed then .error "control characters are not allowed"
  else
    let run : ScanM Unit := do
      Scanner.emit .streamStart
      for _ in List.range (chars.length + 2) do
        if ← Scanner.fetchNext then break
    (run.run { input := chars.toArray }).map fun ((), s) => s.tokens

end NamingDirectory.Yaml
