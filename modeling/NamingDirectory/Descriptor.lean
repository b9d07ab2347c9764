import NamingDirectory.Path.Name
import NamingDirectory.Records
import NamingDirectory.Value.Basic

/-!
Typed records and the classification of a record set by the roles of its keys.
-/

namespace NamingDirectory

/-- The last segment that declares a type. -/
def typeKey : String := "type"

/-- The attribute that chooses a converter by id. -/
def converterKey : String := "converter"

/-- A typed entry: its path, type, chosen converter, raw text and attributes in first-key order. -/
structure TypeDescriptor where
  path : Name
  typeName : String
  converter : Option String := none
  value : Option RecordValue := none
  attributes : OrderedMap RecordValue := OrderedMap.empty
  deriving Repr, Inhabited

namespace TypeDescriptor

/-- A descriptor with no raw text and no attributes. -/
def new (path : Name) (typeName : String) : TypeDescriptor := ⟨path, typeName, none, none, .empty⟩

/-- The first text of an attribute. -/
def attribute? (d : TypeDescriptor) (name : String) : Option String :=
  (d.attributes.get? name).map RecordValue.first

/-- How failures name the entry: its path joined with `/`, or `<namespace>` for a whole set. -/
def label (d : TypeDescriptor) : String :=
  if d.path.isEmpty then "<namespace>" else d.path.display

/-- A reference with the descriptor's type and the first text of each attribute. -/
def toReference (d : TypeDescriptor) : Reference :=
  ⟨d.typeName, OrderedMap.ofList (d.attributes.entries.map fun (k, v) => (k, v.first))⟩

/-- Takes in a key below the descriptor: the converter id, or an attribute. -/
def absorb (d : TypeDescriptor) (key : String) (value : RecordValue) : TypeDescriptor :=
  if key == converterKey then { d with converter := some value.first }
  else { d with attributes := d.attributes.insert key value }

end TypeDescriptor

/-- Records sorted by role: leaves, typed entries by type key, or one descriptor for the whole set. -/
structure Classification where
  leaves : List (Name × RecordValue) := []
  descriptors : List TypeDescriptor := []
  whole : Option TypeDescriptor := none
  deriving Repr, Inhabited

namespace Classification

/-- Finds the descriptor of a path. -/
def find? (table : List (Name × TypeDescriptor)) (path : Name) : Option TypeDescriptor :=
  (table.find? (·.1 == path)).map (·.2)

/-- Replaces the descriptor of a path in place, or appends it. -/
def put (table : List (Name × TypeDescriptor)) (path : Name) (d : TypeDescriptor) :
    List (Name × TypeDescriptor) :=
  match table with
  | [] => [(path, d)]
  | (p, old) :: rest => if p == path then (p, d) :: rest else (p, old) :: put rest path d

/-- The descriptors the type keys declare, by path; the last type key wins, the first fixes the place. -/
def declared (records : Records) (delimiter : Delimiter) : List (Name × TypeDescriptor) :=
  records.entries.foldl (fun table (key, value) =>
    let name := Name.parse key delimiter
    if name.last? == some typeKey && name.length > 1 then
      put table name.parent (TypeDescriptor.new name.parent value.first)
    else table) []

/-- The descriptor of a whole record set, when a key is `type` alone. -/
def namespaceType? (records : Records) (delimiter : Delimiter) : Option String :=
  records.entries.foldl (fun found (key, value) =>
    if (Name.parse key delimiter).segments == [typeKey] then some value.first else found) none

/-- Sorts one record into the table of descriptors or the leaves. -/
def sortRecord (delimiter : Delimiter) (acc : List (Name × TypeDescriptor) × List (Name × RecordValue))
    (entry : String × RecordValue) : List (Name × TypeDescriptor) × List (Name × RecordValue) :=
  let (table, leaves) := acc
  let (key, value) := entry
  let name := Name.parse key delimiter
  if name.length > 1 && name.last? == some typeKey then acc
  else match find? table name with
    | some d => (put table name { d with value := some value }, leaves)
    | none =>
      match (if name.length > 1 then find? table name.parent else none), name.last? with
      | some d, some last => (put table name.parent (d.absorb last value), leaves)
      | _, _ => (table, leaves ++ [(name, value)])

end Classification

/-- Sorts records by role, or makes the whole set one descriptor when a key is `type` alone. -/
def classify (records : Records) (delimiter : Delimiter) : Classification :=
  match Classification.namespaceType? records delimiter with
  | some typeName =>
    let whole := records.entries.foldl
      (fun d (key, value) => if key == typeKey then d else d.absorb key value)
      (TypeDescriptor.new Name.empty typeName)
    { whole := some whole }
  | none =>
    let (table, leaves) := records.entries.foldl (Classification.sortRecord delimiter)
      (Classification.declared records delimiter, [])
    { leaves := leaves, descriptors := table.map (·.2) }

end NamingDirectory
