import NamingDirectory.Path.Delimiter
import NamingDirectory.Format.Basic
import NamingDirectory.Conversion.Converter
import NamingDirectory.Yaml.Document
import NamingDirectory.Text.Escape

/-!
The configuration of a naming tree, read from a map of texts or from a YAML document.
-/

namespace NamingDirectory

/-- The configuration of a naming tree. -/
structure NamingConfig where
  delimiter : String := "."
  shared : Bool := false
  ignoreClose : Bool := false
  root : String := ""
  commentChar : Char := defaultCommentChar
  deriving Repr, Inhabited, DecidableEq

namespace NamingConfig

/-- The defaults: `.` delimiter, private, closable, empty root id, `#` comments. -/
def default : NamingConfig := {}

/-- Reads a flag. -/
def flag (key raw : String) : Except NamingError Bool :=
  match Converter.lowerAscii (Unicode.trim raw) with
  | "true" | "yes" | "1" | "on" => .ok true
  | "false" | "no" | "0" | "off" => .ok false
  | _ => .error (.conversionFailure key "boolean" "provided string was not `true` or `false`")

/-- A configuration from a map of texts, its fields read in order of declaration. -/
def ofMap (lookup : String → Option String) : Except NamingError NamingConfig := do
  let mut config := default
  if let some d := lookup "delimiter" then config := { config with delimiter := d }
  if let some s := lookup "shared" then config := { config with shared := ← flag "shared" s }
  if let some s := lookup "ignore_close" then
    config := { config with ignoreClose := ← flag "ignore_close" s }
  if let some r := lookup "root" then config := { config with root := r }
  if let some c := lookup "comment_char" then
    match c.toList with
    | [ch] => config := { config with commentChar := ch }
    | _ => throw (.config ("comment_char must be a single character, got '" ++ c ++ "'"))
  return config

/-- Reads the fields of a YAML document. -/
def ofDocument (doc : Yaml.Document) : Except String NamingConfig := do
  let mut config := default
  let mut seen : List String := []
  for (key, pos) in ← doc.topEntries do
    let known := ["delimiter", "shared", "ignore_close", "root", "comment_char"]
    if known.contains key then
      if seen.contains key then throw "duplicate field"
      seen := key :: seen
    let text? := doc.scalarAt? pos
    let text := fun (_ : Unit) => match text? with
      | some (t, _) => Except.ok t
      | none => Except.error "invalid type: expected a string"
    let flag := fun (_ : Unit) => match doc.boolAt? pos with
      | some b => Except.ok b
      | none => Except.error "invalid type: expected a boolean"
    match key with
    | "delimiter" => config := { config with delimiter := ← text () }
    | "shared" => config := { config with shared := ← flag () }
    | "ignore_close" => config := { config with ignoreClose := ← flag () }
    | "root" => config := { config with root := ← text () }
    | "comment_char" =>
      match (← text ()).toList with
      | [c] => config := { config with commentChar := c }
      | _ => throw "invalid value: expected a character"
    | _ => pure ()
  return config

/-- A configuration from a YAML document. -/
def ofYaml (content : String) : Except NamingError NamingConfig :=
  match Yaml.loadDocument content >>= ofDocument with
  | .ok config => .ok config
  | .error _ => .error (.invalidConfig (.wrapped "Failed to parse YAML configuration: " ""))

/-- The delimiter the configuration names. -/
def compileDelimiter (config : NamingConfig) : Except NamingError Delimiter :=
  Delimiter.parse config.delimiter

/-- The debug text: every field by name, texts and the character quoted. -/
def debug (config : NamingConfig) : String :=
  "NamingConfig \x7b delimiter: " ++ Text.quote config.delimiter ++ ", shared: " ++
    toString config.shared ++ ", ignore_close: " ++ toString config.ignoreClose ++ ", root: " ++
    Text.quote config.root ++ ", comment_char: " ++ Text.quoteChar config.commentChar ++ " \x7d"

end NamingConfig

end NamingDirectory
