import NamingDirectory.Yaml.Parser
import NamingDirectory.Number.Decimal
import NamingDirectory.Number.Integer

/-!
Reading a YAML stream as one document of nodes, scalars resolved by their text and tags.
-/

namespace NamingDirectory.Yaml

/-- A node of a YAML document. -/
inductive Node where
  | null
  | bool (b : Bool)
  | integer (n : Int)
  | float (x : Binary64)
  | string (s : String)
  | sequence (items : List Node)
  | mapping (entries : List (Node × Node))
  | tagged (tag : String) (node : Node)
  deriving Repr, Inhabited

/-- The events of one document, with aliases resolved to anchor numbers. -/
inductive DocEvent where
  | scalar (tag : Option String) (text : String) (style : ScalarStyle)
  | sequenceStart (tag : Option String)
  | sequenceEnd
  | mappingStart (tag : Option String)
  | mappingEnd
  | alias (anchor : Nat)
  | empty
  deriving Repr, Inhabited

/-- A document: its events and, for each anchor number, the event the anchor is on. -/
structure Document where
  events : Array DocEvent
  anchors : Array Nat
  deriving Repr, Inhabited

/-- Gathers the single document of a stream. -/
def Document.ofEvents (stream : Array Event) : Except String Document := do
  let starts := stream.toList.filter fun | .documentStart => true | _ => false
  if starts.length > 1 then throw "deserializing from YAML containing more than one document is not supported"
  let mut events : Array DocEvent := #[]
  let mut anchors : Array Nat := #[]
  let mut names : List (String × Nat) := []
  for e in stream do
    let anchorOf : Option String → Array Nat × List (String × Nat) := fun
      | some name => (anchors.push events.size, (name, anchors.size) :: names)
      | none => (anchors, names)
    match e with
    | .scalar anchor tag text style =>
      (anchors, names) := anchorOf anchor
      events := events.push (.scalar tag text style)
    | .sequenceStart anchor tag =>
      (anchors, names) := anchorOf anchor
      events := events.push (.sequenceStart tag)
    | .mappingStart anchor tag =>
      (anchors, names) := anchorOf anchor
      events := events.push (.mappingStart tag)
    | .sequenceEnd => events := events.push .sequenceEnd
    | .mappingEnd => events := events.push .mappingEnd
    | .alias name =>
      match names.lookup name with
      | some id => events := events.push (.alias id)
      | none => throw "unknown anchor"
    | _ => pure ()
  if events.isEmpty then events := #[.empty]
  pure ⟨events, anchors⟩

/-- The null spellings. -/
def isNullText (s : String) : Bool := s == "~" || s == "null" || s == "Null" || s == "NULL"

/-- The boolean spellings. -/
def boolText? : String → Option Bool
  | "true" | "True" | "TRUE" => some true
  | "false" | "False" | "FALSE" => some false
  | _ => none

/-- A number with leading zeros: a string in YAML 1.2. -/
def digitsButNotNumber (s : String) : Bool :=
  let t := match s.toList with
    | '-' :: rest => rest
    | '+' :: rest => rest
    | cs => cs
  t.length > 1 && t.head? == some '0' && (t.drop 1).all Char.isDigit

/-- Reads an integer in a radix with an optional sign (`-` only when `signed`), within the bounds. -/
def radixInt? (s : List Char) (radix : Nat) (signed : Bool) (lo hi : Int) : Option Int :=
  let digits := fun (cs : List Char) =>
    if cs.isEmpty then none
    else cs.foldlM (fun acc c => (hexDigit? c).bind fun d =>
      if d < radix then some (acc * radix + d) else none) 0
  let value : Option Int := match s with
    | '+' :: rest => (digits rest).map Int.ofNat
    | '-' :: rest => if signed then (digits rest).map fun n => -Int.ofNat n else none
    | cs => (digits cs).map Int.ofNat
  value.bind fun v => if lo ≤ v && v ≤ hi then some v else none

/-- A prefix of a text as characters, if present. -/
def afterPrefix? (s : List Char) (p : String) : Option (List Char) :=
  if p.toList.isPrefixOf s then some (s.drop p.length) else none

/-- Reads a non-negative integer below `2^bits`: decimal, or after `0x`, `0o` or `0b`. -/
def unsignedInt? (s : String) (bits : Nat) : Option Int :=
  let hi : Int := Int.pow 2 bits - 1
  let cs := s.toList
  let unpositive := match cs with
    | '+' :: rest => rest
    | _ => cs
  let signed := fun (rest : List Char) => rest.head? == some '+' || rest.head? == some '-'
  let radixed : Option Int := [("0x", 16), ("0o", 8), ("0b", 2)].findSome? fun (p, radix) =>
    (afterPrefix? unpositive p).bind fun rest =>
      if signed rest then none else radixInt? rest radix false 0 hi
  let blocked := [("0x", 16), ("0o", 8), ("0b", 2)].any fun (p, _) =>
    match afterPrefix? unpositive p with
    | some rest => signed rest
    | none => false
  if blocked then none
  else radixed.orElse fun _ =>
    if signed unpositive || digitsButNotNumber s then none
    else radixInt? unpositive 10 false 0 hi

/-- Reads a negative integer of `bits` bits: after `-0x`, `-0o`, `-0b`, or decimal. -/
def negativeInt? (s : String) (bits : Nat) : Option Int :=
  let lo : Int := -(Int.pow 2 (bits - 1))
  let hi : Int := Int.pow 2 (bits - 1) - 1
  let cs := s.toList
  let radixed := [("-0x", 16), ("-0o", 8), ("-0b", 2)].findSome? fun (p, radix) =>
    (afterPrefix? cs p).bind fun rest => radixInt? ('-' :: rest) radix true lo hi
  radixed.orElse fun _ =>
    if digitsButNotNumber s then none else radixInt? cs 10 true lo hi

/-- Reads a finite double, or one of the spellings of infinity and NaN. -/
def floatText? (s : String) : Option Binary64 :=
  let unpositive := if s.startsWith "+" then (s.drop 1).toString else s
  if s.startsWith "+" && (unpositive.startsWith "+" || unpositive.startsWith "-") then none
  else if unpositive == ".inf" || unpositive == ".Inf" || unpositive == ".INF" then
    some (Binary64.infinity false)
  else if s == "-.inf" || s == "-.Inf" || s == "-.INF" then some (Binary64.infinity true)
  else if s == ".nan" || s == ".NaN" || s == ".NAN" then some Binary64.nan
  else
    match Binary64.readDecimal unpositive with
    | .ok x => if x.isFinite then some x else none
    | .error _ => none

/-- The integer a text reads as, `none` if none, and an error beyond 64 bits. -/
def integerText? (s : String) : Except String (Option Int) :=
  match unsignedInt? s 64 with
  | some n => .ok (some n)
  | none =>
    match negativeInt? s 64 with
    | some n => .ok (some n)
    | none =>
      if (unsignedInt? s 128).isSome || (negativeInt? s 128).isSome then
        .error "integer out of range"
      else .ok none

/-- Resolves a plain scalar without a tag. -/
def plainNode (s : String) : Except String Node := do
  if s.isEmpty || isNullText s then return .null
  if let some b := boolText? s then return .bool b
  if let some n ← integerText? s then return .integer n
  if !digitsButNotNumber s then
    if let some x := floatText? s then return .float x
  return .string s

/-- The standard tags. -/
def standardTag (name : String) : String := "tag:yaml.org,2002:" ++ name

/-- Resolves a scalar with its tag and style. -/
def scalarNode (tag : Option String) (text : String) (style : ScalarStyle) : Except String Node :=
  match tag with
  | some t =>
    if t == standardTag "bool" then
      match boolText? text with
      | some b => .ok (.bool b)
      | none => .error "invalid value: expected a boolean"
    else if t == standardTag "int" then do
      match ← integerText? text with
      | some n => .ok (.integer n)
      | none => .error "invalid value: expected an integer"
    else if t == standardTag "float" then
      match floatText? text with
      | some x => .ok (.float x)
      | none => .error "invalid value: expected a float"
    else if t == standardTag "null" then
      if isNullText text then .ok .null else .error "invalid value: expected null"
    else .ok (.string text)
  | none => if style == .plain then plainNode text else .ok (.string text)

/-- A local tag (one written `!name`), without its `!`; only these wrap their nodes. -/
def localTag? (tag : Option String) : Option String :=
  match tag with
  | some t =>
    match t.toList with
    | '!' :: rest => some (if rest.isEmpty then t else String.ofList rest)
    | _ => none
  | none => none

/-- A tag without its leading `!`, as tags are compared. -/
def bareTag (t : String) : String := if t.startsWith "!" then (t.drop 1).toString else t

/-- Equality of nodes as mapping keys: doubles by value with NaNs equal, mappings without order. -/
def Node.same : Node → Node → Bool
  | .null, .null => true
  | .bool a, .bool b => a == b
  | .integer a, .integer b => a == b
  | .float a, .float b => (a.isNaN && b.isNaN) || a.valueEq b
  | .string a, .string b => a == b
  | .sequence as, .sequence bs => as.length == bs.length && sameItems as bs
  | .mapping as, .mapping bs => as.length == bs.length && sameEntries as bs
  | .tagged t a, .tagged u b => bareTag t == bareTag u && Node.same a b
  | _, _ => false
where
  sameItems : List Node → List Node → Bool
    | a :: as, b :: bs => Node.same a b && sameItems as bs
    | _, _ => true
  /-- Every entry of the first has its key with an equal value in the second. -/
  sameEntries : List (Node × Node) → List (Node × Node) → Bool
    | [], _ => true
    | (k, v) :: rest, other => findSame k v other && sameEntries rest other
  findSame (k v : Node) : List (Node × Node) → Bool
    | [] => false
    | (k', v') :: rest => (Node.same k k' && Node.same v v') || findSame k v rest

/-- Collections nest at most this deep. -/
def maxDepth : Nat := 128

/-- Reads the node at an event, with the position after it and the alias jumps so far. -/
def Document.read (doc : Document) : Nat → Nat → Nat → Nat → Bool → Except String (Node × Nat × Nat)
  | 0, _, _, _, _ => .error "recursion limit exceeded"
  | fuel + 1, pos, depth, jumps, tagged => do
    let event := doc.events.getD pos .empty
    let wrap := fun (tag : Option String) => if tagged then none else localTag? tag
    match event with
    | .empty => pure (.null, pos + 1, jumps)
    | .alias id =>
      let jumps := jumps + 1
      if jumps > doc.events.size * 100 then throw "repetition limit exceeded"
      let (node, _, jumps) ← doc.read fuel (doc.anchors.getD id 0) depth jumps false
      pure (node, pos + 1, jumps)
    | .scalar tag text style =>
      match wrap tag with
      | some t =>
        let (node, next, jumps) ← doc.read fuel pos depth jumps true
        pure (.tagged t node, next, jumps)
      | none =>
        let node ← if tagged then
            (if style == .plain then plainNode text else pure (.string text))
          else scalarNode tag text style
        pure (node, pos + 1, jumps)
    | .sequenceStart tag =>
      match wrap tag with
      | some t =>
        let (node, next, jumps) ← doc.read fuel pos depth jumps true
        pure (.tagged t node, next, jumps)
      | none =>
        if depth ≥ maxDepth then throw "recursion limit exceeded"
        let mut items : Array Node := #[]
        let mut cursor := pos + 1
        let mut jumps := jumps
        for _ in List.range (doc.events.size + 1) do
          match doc.events.getD cursor .sequenceEnd with
          | .sequenceEnd | .empty => break
          | _ =>
            let (item, next, j) ← doc.read fuel cursor (depth + 1) jumps false
            items := items.push item
            cursor := next
            jumps := j
        pure (.sequence items.toList, cursor + 1, jumps)
    | .mappingStart tag =>
      match wrap tag with
      | some t =>
        let (node, next, jumps) ← doc.read fuel pos depth jumps true
        pure (.tagged t node, next, jumps)
      | none =>
        if depth ≥ maxDepth then throw "recursion limit exceeded"
        let mut entries : Array (Node × Node) := #[]
        let mut cursor := pos + 1
        let mut jumps := jumps
        for _ in List.range (doc.events.size + 1) do
          match doc.events.getD cursor .mappingEnd with
          | .mappingEnd | .empty => break
          | _ =>
            let (key, next, j) ← doc.read fuel cursor (depth + 1) jumps false
            if entries.any (fun (k, _) => k.same key) then throw "duplicate entry"
            let (value, next, j) ← doc.read fuel next (depth + 1) j false
            entries := entries.push (key, value)
            cursor := next
            jumps := j
        pure (.mapping entries.toList, cursor + 1, jumps)
    | .sequenceEnd | .mappingEnd => throw "unexpected end of collection"

/-- The event of a node, following an alias to its anchor. -/
def Document.resolve (doc : Document) (pos : Nat) : Nat :=
  match doc.events.getD pos .empty with
  | .alias id => doc.anchors.getD id pos
  | _ => pos

/-- The position after the node at an event. -/
def Document.skipNode (doc : Document) (pos : Nat) : Nat :=
  match doc.events.getD pos .empty with
  | .sequenceStart _ | .mappingStart _ => go (doc.events.size + 1) (pos + 1) 1
  | _ => pos + 1
where
  /-- Moves past events until the open collections close. -/
  go : Nat → Nat → Nat → Nat
    | 0, cursor, _ => cursor
    | fuel + 1, cursor, depth =>
      match doc.events.getD cursor .mappingEnd with
      | .sequenceStart _ | .mappingStart _ => go fuel (cursor + 1) (depth + 1)
      | .sequenceEnd | .mappingEnd => if depth == 1 then cursor + 1 else go fuel (cursor + 1) (depth - 1)
      | _ => go fuel (cursor + 1) depth

/-- The text and style of the scalar at an event, following an alias. -/
def Document.scalarAt? (doc : Document) (pos : Nat) : Option (String × ScalarStyle) :=
  match doc.events.getD (doc.resolve pos) .empty with
  | .scalar _ text style => some (text, style)
  | _ => none

/-- The scalar at a position, after aliases, with its tag as written out in full. -/
def Document.taggedScalarAt? (doc : Document) (pos : Nat) :
    Option (Option String × String × ScalarStyle) :=
  match doc.events.getD (doc.resolve pos) .empty with
  | .scalar tag text style => some (tag, text, style)
  | _ => none

/-- A boolean written as a plain scalar, or as a literal block scalar tagged `!!bool`. -/
def Document.boolAt? (doc : Document) (pos : Nat) : Option Bool :=
  match doc.taggedScalarAt? pos with
  | some (tag, text, style) =>
    if style == .plain || (style == .literal && tag == some (standardTag "bool")) then
      boolText? text
    else none
  | none => none

/-- The entries of the top mapping as key texts and value positions; an empty document has none. -/
def Document.topEntries (doc : Document) : Except String (List (String × Nat)) := do
  let top := doc.resolve 0
  match doc.events.getD top .empty with
  | .empty => pure []
  | .scalar _ "" .plain => pure []
  | .mappingStart _ =>
    let mut entries : Array (String × Nat) := #[]
    let mut cursor := top + 1
    for _ in List.range (doc.events.size + 1) do
      match doc.events.getD cursor .mappingEnd with
      | .mappingEnd => break
      | _ =>
        let some (key, _) := doc.scalarAt? cursor | throw "invalid type: expected a field name"
        let valuePos := doc.skipNode cursor
        entries := entries.push (key, valuePos)
        cursor := doc.skipNode valuePos
    pure entries.toList
  | _ => throw "invalid type: expected a mapping"

/-- The events of a YAML text. -/
def streamEvents (text : String) : Except String (Array Event) := do
  events (← scan text)

/-- The single document of a YAML text. -/
def loadDocument (text : String) : Except String Document := do
  Document.ofEvents (← streamEvents text)

/-- The document node of a YAML text. -/
def readDocument (text : String) : Except String Node := do
  let doc ← loadDocument text
  let (node, _, _) ← doc.read (4 * maxDepth + 8) 0 0 0 false
  pure node

end NamingDirectory.Yaml
