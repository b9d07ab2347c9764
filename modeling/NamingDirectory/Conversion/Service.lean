import NamingDirectory.Conversion.Converter
import NamingDirectory.Text.Escape

/-!
Choosing how a typed entry becomes a value: named converter, factory, registered converter, or
the raw text.
-/

namespace NamingDirectory

/-- Names sorted by code point. -/
def sortNames (names : List String) : List String :=
  names.mergeSort fun a b => !decide (b < a)

/-- Replaces the entry of a key in place, or appends one. -/
def putEntry {α : Type} (key : String) (value : α) : List (String × α) → List (String × α)
  | [] => [(key, value)]
  | (k, v) :: rest => if k == key then (k, value) :: rest else (k, v) :: putEntry key value rest

/-- Converters by type name. -/
structure ConverterRegistry where
  entries : List (String × Converter) := []

namespace ConverterRegistry

/-- A registry with no converter. -/
def empty : ConverterRegistry := ⟨[]⟩

/-- Registers a converter for a type, replacing the one it had. -/
def register (r : ConverterRegistry) (typeName : String) (c : Converter) : ConverterRegistry :=
  ⟨putEntry typeName c r.entries⟩

/-- The converter of a type. -/
def get? (r : ConverterRegistry) (typeName : String) : Option Converter :=
  (r.entries.find? (·.1 == typeName)).map (·.2)

/-- Whether a type has a converter. -/
def contains (r : ConverterRegistry) (typeName : String) : Bool :=
  r.entries.any (·.1 == typeName)

/-- The number of types with a converter. -/
def size (r : ConverterRegistry) : Nat := r.entries.length

/-- Whether no type has a converter. -/
def isEmpty (r : ConverterRegistry) : Bool := r.entries.isEmpty

/-- The types with a converter, sorted. -/
def typeNames (r : ConverterRegistry) : List String := sortNames (r.entries.map (·.1))

/-- The built-in converters under their type names. -/
def builtins : ConverterRegistry :=
  [("string", Converter.text), ("bool", Converter.boolean), ("boolean", Converter.boolean),
   ("int", Converter.integer), ("integer", Converter.integer), ("long", Converter.integer),
   ("float", Converter.double), ("double", Converter.double), ("date", Converter.date),
   ("bean", Converter.bean), ("datasource", Converter.dataSource)].foldl
    (fun r (name, c) => r.register name c) empty

/-- A list of quoted names in debug form. -/
def quotedList (names : List String) : String :=
  "[" ++ ", ".intercalate (names.map Text.quote) ++ "]"

/-- The debug text: the sorted type names. -/
def debug (r : ConverterRegistry) : String :=
  "ConverterRegistry \x7b types: " ++ quotedList r.typeNames ++ " \x7d"

end ConverterRegistry

/-- The converters by type, the converters by id, and an optional object factory. -/
structure ConversionService where
  registry : ConverterRegistry := ConverterRegistry.builtins
  plugins : List (String × Converter) := []
  factory : Option ObjectFactory := none

namespace ConversionService

/-- A service on a registry, with no plugin and no factory. -/
def withRegistry (registry : ConverterRegistry) : ConversionService := ⟨registry, [], none⟩

/-- The service with the built-in converters only. -/
def standard : ConversionService := withRegistry ConverterRegistry.builtins

/-- Registers a converter by type name. -/
def registerConverter (s : ConversionService) (typeName : String) (c : Converter) :
    ConversionService :=
  { s with registry := s.registry.register typeName c }

/-- Registers a converter by id. -/
def registerPlugin (s : ConversionService) (id : String) (c : Converter) : ConversionService :=
  { s with plugins := putEntry id c s.plugins }

/-- Sets the object factory. -/
def setFactory (s : ConversionService) (f : ObjectFactory) : ConversionService :=
  { s with factory := some f }

/-- Runs a converter on the raw text of a descriptor, one text at a time for a repeated key. -/
def apply (c : Converter) (d : TypeDescriptor) : Except NamingError Value :=
  match d.value with
  | none => c.convert none d
  | some (.single raw) => c.convert (some raw) d
  | some (.multi raws) => (raws.mapM fun raw => c.convert (some raw) d).map Value.list

/-- A descriptor bound with no converter: its text, a list for a repeated key, or a self-reference. -/
def unconverted (d : TypeDescriptor) : Value :=
  match d.value with
  | some (.single raw) => .text raw
  | some (.multi raws) => .list (raws.map Value.text)
  | none => .reference d.toReference

/-- The value of a descriptor. -/
def convert (s : ConversionService) (d : TypeDescriptor) : Except NamingError Value :=
  match d.converter with
  | some id =>
    match (s.plugins.find? (·.1 == id)).map (·.2) with
    | some plugin => apply plugin d
    | none => .error (.conversionFailure d.label d.typeName ("unknown converter '" ++ id ++ "'"))
  | none => do
    let built ← match s.factory with
      | some f => f.build d
      | none => pure none
    match built.filter (!·.isReference) with
    | some v => pure v
    | none =>
      match s.registry.get? d.typeName with
      | some c => apply c d
      | none => pure (unconverted d)

/-- The debug text: the registry, the sorted plugin ids and whether a factory is set. -/
def debug (s : ConversionService) : String :=
  "ConversionService \x7b registry: " ++ s.registry.debug ++ ", plugins: " ++
    ConverterRegistry.quotedList (sortNames (s.plugins.map (·.1))) ++ ", object_factory: " ++
    (if s.factory.isSome then "true" else "false") ++ " \x7d"

end ConversionService

end NamingDirectory
