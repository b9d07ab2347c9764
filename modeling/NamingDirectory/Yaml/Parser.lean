import NamingDirectory.Yaml.Scanner

/-!
From YAML tokens to events, by the grammar of YAML 1.1 block and flow collections.
-/

namespace NamingDirectory.Yaml

/-- An event of a YAML stream. -/
inductive Event where
  | streamStart
  | streamEnd
  | documentStart
  | documentEnd
  | alias (name : String)
  | scalar (anchor tag : Option String) (text : String) (style : ScalarStyle)
  | sequenceStart (anchor tag : Option String)
  | sequenceEnd
  | mappingStart (anchor tag : Option String)
  | mappingEnd
  deriving Repr, Inhabited

/-- Where the parser is in the grammar. -/
inductive ParseState where
  | streamStart
  | implicitDocumentStart
  | documentStart
  | documentContent
  | documentEnd
  | blockNode
  | blockSequenceFirstEntry
  | blockSequenceEntry
  | indentlessSequenceEntry
  | blockMappingFirstKey
  | blockMappingKey
  | blockMappingValue
  | flowSequenceFirstEntry
  | flowSequenceEntry
  | flowSequenceEntryMappingKey
  | flowSequenceEntryMappingValue
  | flowSequenceEntryMappingEnd
  | flowMappingFirstKey
  | flowMappingKey
  | flowMappingValue
  | flowMappingEmptyValue
  | finished
  deriving Repr, Inhabited, DecidableEq

/-- The parser: the tokens, the next one, the state, the states to return to, and the tag handles. -/
structure Parser where
  tokens : Array Token
  position : Nat := 0
  state : ParseState := .streamStart
  states : List ParseState := []
  tagHandles : List (String × String) := []
  deriving Inhabited

/-- Parsing steps; a failure carries the reason. -/
abbrev ParseM := StateT Parser (Except String)

namespace Parser

/-- The next token (the stream end after the last). -/
def peek : ParseM Token := do
  let p ← get
  pure (p.tokens.getD p.position .streamEnd)

/-- Moves past the next token. -/
def advance : ParseM Unit := modify fun p => { p with position := p.position + 1 }

/-- Goes to a state. -/
def goTo (s : ParseState) : ParseM Unit := modify fun p => { p with state := s }

/-- Remembers a state to return to. -/
def pushState (s : ParseState) : ParseM Unit := modify fun p => { p with states := s :: p.states }

/-- Returns to the last remembered state. -/
def popState : ParseM Unit :=
  modify fun p => { p with state := p.states.headD .finished, states := p.states.drop 1 }

/-- An empty plain scalar, for a missing node. -/
def emptyScalar : Event := .scalar none none "" .plain

/-- The default tag handles. -/
def defaultHandles : List (String × String) := [("!", "!"), ("!!", "tag:yaml.org,2002:")]

/-- Reads the directives before a document and installs its tag handles. -/
def directives : ParseM Unit := do
  let mut version := false
  let mut handles : List (String × String) := []
  for _ in List.range ((← get).tokens.size + 1) do
    match ← peek with
    | .versionDirective major minor =>
      if version then throw "found duplicate %YAML directive"
      if major != 1 || (minor != 1 && minor != 2) then throw "found incompatible YAML document"
      version := true
      advance
    | .tagDirective handle tagPrefix =>
      if handles.any (·.1 == handle) then throw "found duplicate %TAG directive"
      handles := handles ++ [(handle, tagPrefix)]
      advance
    | _ => break
  let defaults := defaultHandles.filter fun (h, _) => !handles.any (·.1 == h)
  modify fun p => { p with tagHandles := handles ++ defaults }

/-- Whether a token starts what follows a document. -/
def isDocumentBoundary : Token → Bool
  | .versionDirective .. | .tagDirective .. | .documentStart | .streamEnd => true
  | _ => false

/-- The start of a document, or the end of the stream. -/
def documentStart (implicit : Bool) : ParseM Event := do
  if !implicit then
    for _ in List.range ((← get).tokens.size + 1) do
      match ← peek with
      | .documentEnd => advance
      | _ => break
  let t ← peek
  if implicit && !isDocumentBoundary t then
    directives
    pushState .documentEnd
    goTo .blockNode
    pure .documentStart
  else
    match t with
    | .streamEnd =>
      goTo .finished
      advance
      pure .streamEnd
    | _ =>
      directives
      match ← peek with
      | .documentStart =>
        pushState .documentEnd
        goTo .documentContent
        advance
        pure .documentStart
      | _ => throw "did not find expected <document start>"

/-- The end of a document, with or without `...`. -/
def documentEnd : ParseM Event := do
  match ← peek with
  | .documentEnd => advance
  | _ => pure ()
  modify fun p => { p with tagHandles := [] }
  goTo .documentStart
  pure .documentEnd

/-- A node: an alias, or a scalar or collection with an optional anchor and tag. -/
def node (block indentlessSequence : Bool) : ParseM Event := do
  match ← peek with
  | .alias name =>
    popState
    advance
    pure (.alias name)
  | first =>
    let mut anchor : Option String := none
    let mut tagParts : Option (String × String) := none
    match first with
    | .anchor name =>
      anchor := some name
      advance
      match ← peek with
      | .tag handle suffix =>
        tagParts := some (handle, suffix)
        advance
      | _ => pure ()
    | .tag handle suffix =>
      tagParts := some (handle, suffix)
      advance
      match ← peek with
      | .anchor name =>
        anchor := some name
        advance
      | _ => pure ()
    | _ => pure ()
    let tag ← match tagParts with
      | none => pure none
      | some (handle, suffix) =>
        if handle.isEmpty then pure (some suffix)
        else
          match (← get).tagHandles.find? (·.1 == handle) with
          | some (_, tagPrefix) => pure (some (tagPrefix ++ suffix))
          | none => throw "found undefined tag handle"
    let t ← peek
    match t with
    | .blockEntry =>
      if indentlessSequence then
        goTo .indentlessSequenceEntry
        return .sequenceStart anchor tag
    | _ => pure ()
    match t with
    | .scalar text style =>
      popState
      advance
      pure (.scalar anchor tag text style)
    | .flowSequenceStart =>
      goTo .flowSequenceFirstEntry
      pure (.sequenceStart anchor tag)
    | .flowMappingStart =>
      goTo .flowMappingFirstKey
      pure (.mappingStart anchor tag)
    | .blockSequenceStart =>
      if block then
        goTo .blockSequenceFirstEntry
        pure (.sequenceStart anchor tag)
      else if anchor.isSome || tag.isSome then
        popState
        pure (.scalar anchor tag "" .plain)
      else throw "did not find expected node content"
    | .blockMappingStart =>
      if block then
        goTo .blockMappingFirstKey
        pure (.mappingStart anchor tag)
      else if anchor.isSome || tag.isSome then
        popState
        pure (.scalar anchor tag "" .plain)
      else throw "did not find expected node content"
    | _ =>
      if anchor.isSome || tag.isSome then
        popState
        pure (.scalar anchor tag "" .plain)
      else throw "did not find expected node content"

/-- An entry of a block sequence, or its end. -/
def blockSequenceEntry (first : Bool) : ParseM Event := do
  if first then advance
  match ← peek with
  | .blockEntry =>
    advance
    match ← peek with
    | .blockEntry | .blockEnd =>
      goTo .blockSequenceEntry
      pure emptyScalar
    | _ =>
      pushState .blockSequenceEntry
      node true false
  | .blockEnd =>
    popState
    advance
    pure .sequenceEnd
  | _ => throw "did not find expected '-' indicator"

/-- An entry of a sequence written at its mapping key's indentation, or its end. -/
def indentlessSequenceEntry : ParseM Event := do
  match ← peek with
  | .blockEntry =>
    advance
    match ← peek with
    | .blockEntry | .key | .value | .blockEnd =>
      goTo .indentlessSequenceEntry
      pure emptyScalar
    | _ =>
      pushState .indentlessSequenceEntry
      node true false
  | _ =>
    popState
    pure .sequenceEnd

/-- A key of a block mapping, or its end. -/
def blockMappingKey (first : Bool) : ParseM Event := do
  if first then advance
  match ← peek with
  | .key =>
    advance
    match ← peek with
    | .key | .value | .blockEnd =>
      goTo .blockMappingValue
      pure emptyScalar
    | _ =>
      pushState .blockMappingValue
      node true true
  | .blockEnd =>
    popState
    advance
    pure .mappingEnd
  | _ => throw "did not find expected key"

/-- The value of a block mapping entry; a missing one is empty. -/
def blockMappingValue : ParseM Event := do
  match ← peek with
  | .value =>
    advance
    match ← peek with
    | .key | .value | .blockEnd =>
      goTo .blockMappingKey
      pure emptyScalar
    | _ =>
      pushState .blockMappingKey
      node true true
  | _ =>
    goTo .blockMappingKey
    pure emptyScalar

/-- An entry of a flow sequence, or its end. A `?` entry is a one-pair mapping. -/
def flowSequenceEntry (first : Bool) : ParseM Event := do
  if first then advance
  let mut t ← peek
  match t with
  | .flowSequenceEnd => pure ()
  | _ =>
    if !first then
      match t with
      | .flowEntry =>
        advance
        t ← peek
      | _ => throw "did not find expected ',' or ']'"
  match t with
  | .key =>
    goTo .flowSequenceEntryMappingKey
    advance
    pure (.mappingStart none none)
  | .flowSequenceEnd =>
    popState
    advance
    pure .sequenceEnd
  | _ =>
    pushState .flowSequenceEntry
    node false false

/-- The key of a one-pair mapping in a flow sequence. -/
def flowSequenceEntryMappingKey : ParseM Event := do
  match ← peek with
  | .value | .flowEntry | .flowSequenceEnd =>
    goTo .flowSequenceEntryMappingValue
    pure emptyScalar
  | _ =>
    pushState .flowSequenceEntryMappingValue
    node false false

/-- The value of a one-pair mapping in a flow sequence. -/
def flowSequenceEntryMappingValue : ParseM Event := do
  match ← peek with
  | .value =>
    advance
    match ← peek with
    | .flowEntry | .flowSequenceEnd =>
      goTo .flowSequenceEntryMappingEnd
      pure emptyScalar
    | _ =>
      pushState .flowSequenceEntryMappingEnd
      node false false
  | _ =>
    goTo .flowSequenceEntryMappingEnd
    pure emptyScalar

/-- A key of a flow mapping, or its end. -/
def flowMappingKey (first : Bool) : ParseM Event := do
  if first then advance
  let mut t ← peek
  match t with
  | .flowMappingEnd => pure ()
  | _ =>
    if !first then
      match t with
      | .flowEntry =>
        advance
        t ← peek
      | _ => throw "did not find expected ',' or '\x7d'"
  match t with
  | .key =>
    advance
    match ← peek with
    | .value | .flowEntry | .flowMappingEnd =>
      goTo .flowMappingValue
      pure emptyScalar
    | _ =>
      pushState .flowMappingValue
      node false false
  | .flowMappingEnd =>
    popState
    advance
    pure .mappingEnd
  | _ =>
    pushState .flowMappingEmptyValue
    node false false

/-- The value of a flow mapping entry; a missing one is empty. -/
def flowMappingValue (empty : Bool) : ParseM Event := do
  if empty then
    goTo .flowMappingKey
    return emptyScalar
  match ← peek with
  | .value =>
    advance
    match ← peek with
    | .flowEntry | .flowMappingEnd =>
      goTo .flowMappingKey
      pure emptyScalar
    | _ =>
      pushState .flowMappingKey
      node false false
  | _ =>
    goTo .flowMappingKey
    pure emptyScalar

/-- The next event; `none` once the stream has ended. -/
def step : ParseM (Option Event) := do
  match (← get).state with
  | .streamStart =>
    match ← peek with
    | .streamStart =>
      advance
      goTo .implicitDocumentStart
      pure (some .streamStart)
    | _ => throw "did not find expected <stream-start>"
  | .implicitDocumentStart => some <$> documentStart true
  | .documentStart => some <$> documentStart false
  | .documentContent =>
    match ← peek with
    | .versionDirective .. | .tagDirective .. | .documentStart | .documentEnd | .streamEnd =>
      popState
      pure (some emptyScalar)
    | _ => some <$> node true false
  | .documentEnd => some <$> documentEnd
  | .blockNode => some <$> node true false
  | .blockSequenceFirstEntry => some <$> blockSequenceEntry true
  | .blockSequenceEntry => some <$> blockSequenceEntry false
  | .indentlessSequenceEntry => some <$> indentlessSequenceEntry
  | .blockMappingFirstKey => some <$> blockMappingKey true
  | .blockMappingKey => some <$> blockMappingKey false
  | .blockMappingValue => some <$> blockMappingValue
  | .flowSequenceFirstEntry => some <$> flowSequenceEntry true
  | .flowSequenceEntry => some <$> flowSequenceEntry false
  | .flowSequenceEntryMappingKey => some <$> flowSequenceEntryMappingKey
  | .flowSequenceEntryMappingValue => some <$> flowSequenceEntryMappingValue
  | .flowSequenceEntryMappingEnd =>
    goTo .flowSequenceEntry
    pure (some .mappingEnd)
  | .flowMappingFirstKey => some <$> flowMappingKey true
  | .flowMappingKey => some <$> flowMappingKey false
  | .flowMappingValue => some <$> flowMappingValue false
  | .flowMappingEmptyValue => some <$> flowMappingValue true
  | .finished => pure none

end Parser

/-- The events of a token stream; at most two events per token bound the loop. -/
def events (tokens : Array Token) : Except String (Array Event) :=
  let run : ParseM (Array Event) := do
    let mut out := #[]
    for _ in List.range (4 * tokens.size + 8) do
      match ← Parser.step with
      | some e => out := out.push e
      | none => break
    pure out
  (run.run { tokens }).map (·.1)

end NamingDirectory.Yaml
