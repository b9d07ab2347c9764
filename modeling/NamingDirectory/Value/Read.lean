import NamingDirectory.Value.Basic
import NamingDirectory.Number.Integer
import NamingDirectory.Number.Decimal
import NamingDirectory.Error

/-!
Reading a text value as a number or a boolean of a named type.
-/

namespace NamingDirectory

/-- A type a text value can be read as. -/
inductive ReadTarget where
  | integer (ty : IntegerType)
  | boolean
  | double
  deriving Repr, Inhabited

namespace ReadTarget

/-- The name of the type, as failures give it. -/
def name : ReadTarget → String
  | .integer ty => ty.name
  | .boolean => "bool"
  | .double => "f64"

/-- The targets by their names. -/
def ofName? : String → Option ReadTarget
  | "i64" => some (.integer .int64)
  | "i8" => some (.integer .int8)
  | "u16" => some (.integer .uint16)
  | "bool" => some .boolean
  | "f64" => some .double
  | _ => none

/-- Reads a text: integers and doubles by their grammars, booleans as exactly `true` or `false`. -/
def read (target : ReadTarget) (text : String) : Except String Value :=
  match target with
  | .integer ty => (ty.read text).map Value.integer |>.mapError IntegerError.message
  | .boolean =>
    if text == "true" then .ok (.bool true)
    else if text == "false" then .ok (.bool false)
    else .error "provided string was not `true` or `false`"
  | .double => (Binary64.readDecimal text).map Value.float |>.mapError Binary64.ReadError.message

end ReadTarget

/-- Reads a text value as a target type; `name` labels the failure. -/
def Value.readAs (value : Value) (target : ReadTarget) (name : String) : Except NamingError Value :=
  match value with
  | .text s => (target.read s).mapError (NamingError.conversionFailure name target.name)
  | other => .error (.conversionFailure name target.name (other.kind ++ " is not a string value"))

end NamingDirectory
