import NamingDirectory.Yaml.Document
import NamingDirectory.Path.Delimiter
import NamingDirectory.Records
import NamingDirectory.Error

/-!
Records from YAML: nested keys joined by the delimiter, sequences repeating their key.
-/

namespace NamingDirectory

namespace FloatStyle

/-- Numbers read from YAML: positional from `0.00001` to below `1e16`, else with an exponent. -/
def yaml : FloatStyle := ⟨some (-4), some 16, 1, ".nan", ".inf", "-.inf"⟩

end FloatStyle

namespace Yaml

/-- The text of a scalar key or value; `none` for other nodes. -/
def Node.scalarText? : Node → Option String
  | .string s => some s
  | .integer n => some (toString n)
  | .float x => some (FloatStyle.yaml.render x)
  | .bool b => some (if b then "true" else "false")
  | _ => none

/-- Adds the records of a node under a key. -/
def Node.flatten (delimiter : Delimiter) : Node → String → Records → Records
  | .mapping entries, key, records => flattenEntries delimiter entries key records
  | .sequence items, key, records => flattenItems delimiter items key records
  | .null, key, records => if key.isEmpty then records else records.insert key ""
  | .tagged _ node, key, records => node.flatten delimiter key records
  | node, key, records =>
    match node.scalarText? with
    | some text => records.insert key text
    | none => records
where
  flattenEntries (delimiter : Delimiter) : List (Node × Node) → String → Records → Records
    | [], _, records => records
    | (k, v) :: rest, key, records =>
      let records := match k with
        | .string _ | .integer _ | .float _ | .bool _ =>
          let name := k.scalarText?.getD ""
          v.flatten delimiter (if key.isEmpty then name else delimiter.join [key, name]) records
        | _ => records
      flattenEntries delimiter rest key records
  flattenItems (delimiter : Delimiter) : List Node → String → Records → Records
    | [], _, records => records
    | item :: rest, key, records => flattenItems delimiter rest key (item.flatten delimiter key records)

/-- The records of a YAML text; one that is not a single well-formed document fails. -/
def read (content : String) (delimiter : Delimiter) : Except NamingError Records :=
  match readDocument content with
  | .ok node => .ok (node.flatten delimiter "" Records.empty)
  | .error _ => .error (.parseError (.wrapped "Failed to parse YAML: " ""))

end Yaml

end NamingDirectory
