import NamingDirectory.Number.Binary64
import NamingDirectory.Date.Calendar

/-!
The values bound at leaf names, and their equality.
-/

namespace NamingDirectory

/-- An insertion-ordered map with one entry per key. -/
structure OrderedMap (α : Type) where
  entries : List (String × α)
  deriving Repr, Inhabited, DecidableEq

namespace OrderedMap

variable {α : Type}

/-- The empty map. -/
def empty : OrderedMap α := ⟨[]⟩

/-- Sets a key: a present key keeps its position and takes the new value. -/
def insertEntries (key : String) (value : α) : List (String × α) → List (String × α)
  | [] => [(key, value)]
  | (k, v) :: rest => if k == key then (k, value) :: rest else (k, v) :: insertEntries key value rest

/-- Sets a key. -/
def insert (map : OrderedMap α) (key : String) (value : α) : OrderedMap α :=
  ⟨insertEntries key value map.entries⟩

/-- The map of pairs set in order. -/
def ofList (pairs : List (String × α)) : OrderedMap α :=
  pairs.foldl (fun acc pair => acc.insert pair.1 pair.2) empty

/-- The value of a key. -/
def get? (map : OrderedMap α) (key : String) : Option α :=
  (map.entries.find? (·.1 == key)).map (·.2)

/-- The number of keys. -/
def size (map : OrderedMap α) : Nat := map.entries.length

/-- Whether a key is set. -/
def contains (map : OrderedMap α) (key : String) : Bool := map.entries.any (·.1 == key)

/-- Removes a key; the other keys keep their order. -/
def erase (map : OrderedMap α) (key : String) : OrderedMap α :=
  ⟨map.entries.filter (·.1 != key)⟩

/-- The keys in order. -/
def keys (map : OrderedMap α) : List String := map.entries.map (·.1)

end OrderedMap

/-- A description of a resource: a type name and text properties. -/
structure Reference where
  typeName : String
  properties : OrderedMap String
  deriving Repr, Inhabited, DecidableEq

/-- The value of a property. -/
def Reference.get? (r : Reference) (key : String) : Option String := r.properties.get? key

/-- An application object, compared by the number it was given when it was made. -/
structure HostObject where
  identity : Nat
  typeName : String
  fields : List (String × String)
  deriving Repr, Inhabited, DecidableEq

namespace HostObject

/-- The type name of objects that wrap one text. -/
def textType : String := "String"

/-- An object wrapping a text. -/
def ofText (identity : Nat) (text : String) : HostObject := ⟨identity, textType, [("", text)]⟩

/-- The text of an object that wraps one. -/
def text? (o : HostObject) : Option String :=
  if o.typeName == textType then (o.fields.lookup "") else none

end HostObject

/-- A value bound at a leaf name. -/
inductive Value where
  | text (s : String)
  | bool (b : Bool)
  | integer (n : Int)
  | float (x : Binary64)
  | date (t : DateTime)
  | list (items : List Value)
  | map (entries : List (String × Value))
  | reference (r : Reference)
  | object (o : HostObject)
  deriving Repr, Inhabited

namespace Value

/-- The name of the kind of value. -/
def kind : Value → String
  | .text _ => "string"
  | .bool _ => "boolean"
  | .integer _ => "integer"
  | .float _ => "float"
  | .date _ => "date"
  | .list _ => "list"
  | .map _ => "map"
  | .reference _ => "reference"
  | .object _ => "object"

def asText? : Value → Option String
  | .text s => some s
  | _ => none

def asBool? : Value → Option Bool
  | .bool b => some b
  | _ => none

def asInteger? : Value → Option Int
  | .integer n => some n
  | _ => none

/-- A double for a double, and the nearest double for an integer. -/
def asFloat? : Value → Option Binary64
  | .float x => some x
  | .integer n => some (Binary64.ofInt n)
  | _ => none

def asDate? : Value → Option DateTime
  | .date t => some t
  | _ => none

def asList? : Value → Option (List Value)
  | .list items => some items
  | _ => none

def asMap? : Value → Option (List (String × Value))
  | .map entries => some entries
  | _ => none

def asReference? : Value → Option Reference
  | .reference r => some r
  | _ => none

/-- Whether the value is a reference. -/
def isReference : Value → Bool
  | .reference _ => true
  | _ => false

def asObject? : Value → Option HostObject
  | .object o => some o
  | _ => none

/-- A map value from pairs set in order (a repeated key keeps its first place). -/
def ofPairs (pairs : List (String × Value)) : Value := .map (OrderedMap.ofList pairs).entries

/-- Equality of values. -/
def beq : Value → Value → Bool
  | .text a, .text b => a == b
  | .bool a, .bool b => a == b
  | .integer a, .integer b => a == b
  | .float a, .float b => a.valueEq b
  | .date a, .date b => a == b
  | .list as, .list bs => as.length == bs.length && listBeq as bs
  | .map as, .map bs => as.length == bs.length && mapBeq as bs
  | .reference a, .reference b =>
    a.typeName == b.typeName && a.properties.size == b.properties.size &&
      a.properties.entries.all fun (k, v) => b.properties.get? k == some v
  | .object a, .object b => a.identity == b.identity
  | _, _ => false
where
  listBeq : List Value → List Value → Bool
    | [], [] => true
    | a :: as, b :: bs => beq a b && listBeq as bs
    | _, _ => false
  /-- Every entry of the first map has an equal value under its key in the second. -/
  mapBeq : List (String × Value) → List (String × Value) → Bool
    | [], _ => true
    | (k, v) :: rest, other =>
      (match other.find? (·.1 == k) with
       | some (_, w) => beq v w
       | none => false) && mapBeq rest other

instance : BEq Value := ⟨Value.beq⟩

end Value

end NamingDirectory
