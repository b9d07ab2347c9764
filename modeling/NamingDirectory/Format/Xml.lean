import NamingDirectory.Path.Delimiter
import NamingDirectory.Records
import NamingDirectory.Error
import NamingDirectory.Unicode.WhiteSpace

/-!
Records from XML: attributes and element texts keyed by their path below the document element.
-/

namespace NamingDirectory.Xml

/-- The blanks of markup: space, tab, line feed and carriage return. -/
def isBlank (c : Char) : Bool := c == ' ' || c == '\t' || c == '\n' || c == '\r'

/-- The value of a hexadecimal digit. -/
def hexValue (c : Char) : Option Nat :=
  if '0' ≤ c && c ≤ '9' then some (c.toNat - '0'.toNat)
  else if 'a' ≤ c && c ≤ 'f' then some (c.toNat - 'a'.toNat + 10)
  else if 'A' ≤ c && c ≤ 'F' then some (c.toNat - 'A'.toNat + 10)
  else none

/-- The character a numeric reference names; zero, surrogates and codes past the last plane name none. -/
def charReference? (body : List Char) : Option Char :=
  let code? : Option Nat := match body with
    | 'x' :: digits =>
      if digits.length > 6 then none
      else digits.foldlM (fun acc c => (hexValue c).map (acc * 16 + ·)) 0
    | digits =>
      if digits.length > 7 then none
      else digits.foldlM (fun acc c =>
        if c.isDigit then some (acc * 10 + (c.toNat - '0'.toNat)) else none) 0
  code?.bind fun n =>
    if n == 0 || (0xD800 ≤ n && n ≤ 0xDFFF) || n > 0x10FFFF then none else some (Char.ofNat n)

/-- What a reference between `&` and `;` stands for. -/
def reference? (body : List Char) : Option Char :=
  match body with
  | '#' :: number => charReference? number
  | _ =>
    match String.ofList body with
    | "lt" => some '<'
    | "gt" => some '>'
    | "amp" => some '&'
    | "apos" => some '\''
    | "quot" => some '"'
    | _ => none

/-- Replaces references. Every `&` must be followed by a `;` before any other `&`. -/
def unescape (text : List Char) : Option (List Char) :=
  match text.splitOn '&' with
  | [] => some []
  | first :: pieces =>
    pieces.foldlM (fun acc piece =>
      let (body, rest) := piece.span (· != ';')
      match rest with
      | ';' :: tail => (reference? body).map fun c => acc ++ c :: tail
      | _ => none) first

/-- One event of a document. Names are as written; texts are unescaped. -/
inductive Event where
  | start (name : List Char) (attributes : List (List Char × List Char))
  | empty (name : List Char) (attributes : List (List Char × List Char))
  | close (name : List Char)
  | text (content : List Char)
  | cdata (content : List Char)
  | skipped
  deriving Repr, Inhabited

/-- The attributes of a tag after its name, each quoted once; the fuel is the text's length. -/
def readAttributes : Nat → List Char → List (List Char) → Option (List (List Char × List Char))
  | 0, _, _ => some []
  | fuel + 1, s, seen =>
    match s.dropWhile isBlank with
    | [] => some []
    | first :: more =>
      let (keyRest, after) := more.span fun c => c != '=' && !isBlank c
      let key := first :: keyRest
      let valuePart : Option (List Char) := match after with
        | '=' :: v => some v
        | [] => none
        | _ :: blanks =>
          match blanks.dropWhile isBlank with
          | '=' :: v => some v
          | _ => none
      valuePart.bind fun v =>
        if seen.contains key then none
        else
          match v.dropWhile isBlank with
          | q :: body =>
            if q == '"' || q == '\'' then
              let (value, rest) := body.span (· != q)
              match rest with
              | [] => none
              | _ :: tail =>
                (unescape value).bind fun text =>
                  (readAttributes fuel tail (key :: seen)).map ((key, text) :: ·)
            else none
          | [] => none

/-- The inside of a start tag up to its `>`, which does not count inside quotes. -/
def tagBody : List Char → Option Char → List Char → Option (List Char × List Char)
  | [], _, _ => none
  | c :: rest, none, acc =>
    if c == '>' then some (acc.reverse, rest)
    else if c == '\'' || c == '"' then tagBody rest (some c) (c :: acc)
    else tagBody rest none (c :: acc)
  | c :: rest, some q, acc =>
    if c == q then tagBody rest none (c :: acc) else tagBody rest (some q) (c :: acc)

/-- The text up to the first `>` and the rest after it; all of it when there is none. -/
def untilClose (s : List Char) : List Char × List Char :=
  let (body, rest) := s.span (· != '>')
  (body, rest.drop 1)

/-- What follows `<!`: a comment, a CDATA section or a document type. -/
inductive BangKind where
  | comment
  | cdata
  | doctype
  deriving Repr, DecidableEq

/-- Whether a `>` after the text before it (reversed) ends the comment, CDATA or document type. -/
def BangKind.closes (kind : BangKind) (before : List Char) : Bool :=
  match kind with
  | .comment => before.length > 4 && before.take 2 == ['-', '-']
  | .cdata => before.take 2 == [']', ']']
  | .doctype => before.count '<' == before.count '>'

/-- The construct up to its closing `>`, kept reversed while searching. -/
def bangEnd (kind : BangKind) : List Char → List Char → Option (List Char × List Char)
  | _, [] => none
  | before, c :: rest =>
    if c == '>' && kind.closes before then some (before.reverse, rest)
    else bangEnd kind (c :: before) rest

/-- Whether a text starts with a word, ignoring ASCII case. -/
def startsWithWord (text word : List Char) : Bool :=
  text.length ≥ word.length &&
    (text.take word.length).map Char.toLower == word.map Char.toLower

/-- Reads what follows `<!` (the `!` included). -/
def bang (chunk : List Char) : Option (Event × List Char) := do
  let kind ← match chunk.drop 1 with
    | '[' :: _ => some BangKind.cdata
    | '-' :: _ => some BangKind.comment
    | 'D' :: _ => some BangKind.doctype
    | 'd' :: _ => some BangKind.doctype
    | _ => none
  let (buf, rest) ← bangEnd kind [] chunk
  match kind with
  | .comment => if buf.take 3 == ['!', '-', '-'] then some (.skipped, rest) else none
  | .cdata =>
    if startsWithWord buf "![CDATA[".toList then
      some (.cdata ((buf.drop 8).take (buf.length - 10)), rest)
    else none
  | .doctype =>
    if startsWithWord buf "!DOCTYPE".toList && (buf.drop 8).any (!isBlank ·) then
      some (.skipped, rest)
    else none

/-- Reads a start or empty tag from its inside. -/
def tag (content : List Char) : Option Event :=
  let name := content.takeWhile (!isBlank ·)
  if content.getLast? == some '/' then
    let inner := content.dropLast
    let name := if name.length < content.length then name else inner
    (readAttributes (inner.length + 1) (inner.drop name.length) []).map (.empty name)
  else
    (readAttributes (content.length + 1) (content.drop name.length) []).map (.start name)

/-- Reads the markup after a `<`; `none` inside means the input ended. -/
def markup (input : List Char) : Option (Option (Event × List Char)) :=
  match input with
  | [] => some none
  | '!' :: _ => (bang input).map some
  | '/' :: rest =>
    let (body, after) := untilClose rest
    some (some (.close (body.reverse.dropWhile isBlank).reverse, after))
  | '?' :: rest =>
    let (body, after) := untilClose rest
    let buf := '?' :: body
    if buf.length > 2 && buf.getLast? == some '?' then some (some (.skipped, after)) else none
  | _ =>
    (tagBody input none []).bind fun (content, after) => (tag content).map fun e => some (e, after)

/-- Reads the next event; `none` inside means the input ended, `none` outside is malformed markup. -/
def next (input : List Char) : Option (Option (Event × List Char)) :=
  match input.dropWhile isBlank with
  | [] => some none
  | '<' :: rest => markup rest
  | other =>
    let (text, after) := other.span (· != '<')
    (unescape (text.reverse.dropWhile isBlank).reverse).map fun t => some (.text t, after)

/-- The key of the current element: the open element names below the document element. -/
def pathKey (delimiter : Delimiter) (opened : List String) : String :=
  delimiter.join (opened.reverse.drop 1)

/-- Records a trimmed text under the current element, unless it is empty or has no path. -/
def recordText (delimiter : Delimiter) (opened : List String) (records : Records) (text : List Char) :
    Records :=
  let text := Unicode.trim (String.ofList text)
  let key := pathKey delimiter opened
  if text.isEmpty || key.isEmpty then records else records.insert key text

/-- Records the attributes of the current element. -/
def recordAttributes (delimiter : Delimiter) (opened : List String) (records : Records)
    (attributes : List (List Char × List Char)) : Records :=
  let base := pathKey delimiter opened
  attributes.foldl (fun acc (name, value) =>
    let name := String.ofList name
    acc.insert (if base.isEmpty then name else delimiter.join [base, name]) (String.ofList value))
    records

/-- A failure of the XML reader underneath; the position it reports and its diagnosis follow. -/
def readerFailure : NamingError := .parseError (.wrapped "Failed to parse XML at position " "")

/-- Reads events until the input ends; `opened` holds the open element names, innermost first. -/
def readAll (delimiter : Delimiter) : Nat → List Char → List String → Records →
    Except NamingError Records
  | 0, _, _, records => .ok records
  | fuel + 1, input, opened, records =>
    match next input with
    | none => .error readerFailure
    | some none =>
      match opened with
      | [] => .ok records
      | name :: _ => .error (.parse ("Unclosed element <" ++ name ++ "> at end of document"))
    | some (some (event, rest)) =>
      match event with
      | .start name attributes =>
        let opened := String.ofList name :: opened
        readAll delimiter fuel rest opened (recordAttributes delimiter opened records attributes)
      | .empty name attributes =>
        readAll delimiter fuel rest opened
          (recordAttributes delimiter (String.ofList name :: opened) records attributes)
      | .close name =>
        match opened with
        | top :: outer =>
          if top == String.ofList name then readAll delimiter fuel rest outer records
          else .error readerFailure
        | [] => .error readerFailure
      | .text content => readAll delimiter fuel rest opened (recordText delimiter opened records content)
      | .cdata content => readAll delimiter fuel rest opened (recordText delimiter opened records content)
      | .skipped => readAll delimiter fuel rest opened records

/-- The records of an XML document; a leading byte order mark is ignored. -/
def read (content : String) (delimiter : Delimiter) : Except NamingError Records :=
  let input := match content.toList with
    | '\uFEFF' :: rest => rest
    | chars => chars
  readAll delimiter (input.length + 1) input [] Records.empty

end NamingDirectory.Xml
