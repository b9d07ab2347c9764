import NamingDirectory.Descriptor
import NamingDirectory.Number.Integer
import NamingDirectory.Number.Decimal
import NamingDirectory.Date.Read
import NamingDirectory.Unicode.WhiteSpace
import NamingDirectory.Error

/-!
Converters and object factories, and the converters every directory knows.
-/

namespace NamingDirectory

/-- Turns the raw text of a descriptor, when it has one, into a value. -/
structure Converter where
  convert : Option String → TypeDescriptor → Except NamingError Value

/-- Builds an object for a descriptor, or declines with `none`. -/
structure ObjectFactory where
  build : TypeDescriptor → Except NamingError (Option Value)

namespace Converter

open NamingDirectory.Unicode

/-- The raw text, or the failure of a descriptor that has none. -/
def required (raw : Option String) (d : TypeDescriptor) : Except NamingError String :=
  match raw with
  | some text => .ok text
  | none => .error (.conversionFailure d.label d.typeName "no raw value to convert")

/-- The raw text as it is. -/
def text : Converter := ⟨fun raw d => (required raw d).map Value.text⟩

/-- Lower case of ASCII letters, which decides the words below as a full lowering would. -/
def lowerAscii (s : String) : String :=
  String.ofList (s.toList.map fun c => if 'A' ≤ c && c ≤ 'Z' then c.toLower else c)

/-- A boolean from `true`, `yes`, `1`, `on` or `false`, `no`, `0`, `off`, in any case, trimmed. -/
def boolean : Converter := ⟨fun raw d => do
  let raw ← required raw d
  match lowerAscii (trim raw) with
  | "true" | "yes" | "1" | "on" => .ok (.bool true)
  | "false" | "no" | "0" | "off" => .ok (.bool false)
  | _ => .error (.conversionFailure d.label "boolean" ("'" ++ raw ++ "' is not a boolean"))⟩

/-- A 64-bit integer, with blanks around. -/
def integer : Converter := ⟨fun raw d => do
  let raw ← required raw d
  match IntegerType.int64.read (trim raw) with
  | .ok n => .ok (.integer n)
  | .error e => .error (.conversionFailure d.label "integer" e.message)⟩

/-- A double, with blanks around. -/
def double : Converter := ⟨fun raw d => do
  let raw ← required raw d
  match Binary64.readDecimal (trim raw) with
  | .ok x => .ok (.float x)
  | .error e => .error (.conversionFailure d.label "float" e.message)⟩

/-- The patterns a date is read by when the descriptor names none. -/
def defaultDatePatterns : List String := ["%Y-%m-%dT%H:%M:%S", "%Y-%m-%d"]

/-- A date and time by the `format` attribute, or by the first default pattern that reads it. -/
def date : Converter := ⟨fun raw d => do
  let raw := trim (← required raw d)
  let patterns := match d.attribute? "format" with
    | some pattern => [pattern]
    | none => defaultDatePatterns
  match patterns.findSome? (DateTime.readLenient raw) with
  | some t => .ok (.date t)
  | none => .error (.conversionFailure d.label "date" ("'" ++ raw ++ "' does not match the date format"))⟩

/-- The value of an attribute: a text, or a list of texts for a repeated one. -/
def attributeValue : RecordValue → Value
  | .single s => .text s
  | .multi texts => .list (texts.map Value.text)

/-- The attributes as a map; the raw text is not used. -/
def bean : Converter := ⟨fun _ d =>
  .ok (.map (d.attributes.entries.map fun (k, v) => (k, attributeValue v)))⟩

/-- A reference to a data source, which needs a `url` attribute; the raw text is not used. -/
def dataSource : Converter := ⟨fun _ d =>
  if (d.attribute? "url").isNone then
    .error (.conversionFailure d.label d.typeName "missing required attribute 'url'")
  else .ok (.reference d.toReference)⟩

end Converter

end NamingDirectory
