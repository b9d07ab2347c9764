import NamingDirectory.Value.Basic
import NamingDirectory.Number.Decimal
import NamingDirectory.Date.Text
import NamingDirectory.Text.Escape

/-!
The plain and the debug text of a value.
-/

namespace NamingDirectory

namespace FloatStyle

/-- Plain numbers are always positional, with no fraction digits for whole numbers. -/
def plain : FloatStyle := ⟨none, none, 0, "NaN", "inf", "-inf"⟩

/-- Debug numbers are positional from `0.0001` to below `1e16`, else with an exponent. -/
def debug : FloatStyle := ⟨some (-3), some 16, 1, "NaN", "inf", "-inf"⟩

end FloatStyle

namespace Value

/-- The plain text: lists as `[a, b]`, maps as `{k=v, …}`, references by their type. -/
def display : Value → String
  | .text s => s
  | .bool b => if b then "true" else "false"
  | .integer n => toString n
  | .float x => FloatStyle.plain.render x
  | .date t => t.text
  | .list items => "[" ++ ", ".intercalate (displayItems items) ++ "]"
  | .map entries => "\x7b" ++ ", ".intercalate (displayEntries entries) ++ "\x7d"
  | .reference r => "Reference(" ++ r.typeName ++ ")"
  | .object _ => "<object>"
where
  displayItems : List Value → List String
    | [] => []
    | v :: rest => display v :: displayItems rest
  displayEntries : List (String × Value) → List String
    | [] => []
    | (k, v) :: rest => (k ++ "=" ++ display v) :: displayEntries rest

/-- The debug text of a reference. -/
def referenceDebug (r : Reference) : String :=
  "Reference \x7b type_name: " ++ Text.quote r.typeName ++ ", properties: \x7b" ++
    ", ".intercalate (r.properties.entries.map fun (k, v) => Text.quote k ++ ": " ++ Text.quote v) ++
    "\x7d \x7d"

/-- The debug text: the kind's name with its content, texts quoted. -/
def debug : Value → String
  | .text s => "String(" ++ Text.quote s ++ ")"
  | .bool b => "Bool(" ++ (if b then "true" else "false") ++ ")"
  | .integer n => "Integer(" ++ toString n ++ ")"
  | .float x => "Float(" ++ FloatStyle.debug.render x ++ ")"
  | .date t => "Date(" ++ t.isoText ++ ")"
  | .list items => "List([" ++ ", ".intercalate (debugItems items) ++ "])"
  | .map entries => "Map(\x7b" ++ ", ".intercalate (debugEntries entries) ++ "\x7d)"
  | .reference r => "Reference(" ++ referenceDebug r ++ ")"
  | .object _ => "Object(..)"
where
  debugItems : List Value → List String
    | [] => []
    | v :: rest => debug v :: debugItems rest
  debugEntries : List (String × Value) → List String
    | [] => []
    | (k, v) :: rest => (Text.quote k ++ ": " ++ debug v) :: debugEntries rest

end Value

end NamingDirectory
