import NamingDirectory.Conversion.Service
import NamingDirectory.Unicode.UpperCase

/-!
Small converters and factories that applications register by id or by type.
-/

namespace NamingDirectory

namespace Converter

/-- The raw text in upper case, the empty text when there is none. -/
def upperCase : Converter := ⟨fun raw _ => .ok (.text (Unicode.toUpperText (raw.getD "")))⟩

/-- Always fails with the given reason. -/
def refusing (reason : String) : Converter :=
  ⟨fun _ d => .error (.conversionFailure d.label d.typeName reason)⟩

/-- Whether the descriptor has a raw text. -/
def presence : Converter := ⟨fun raw _ => .ok (.bool raw.isSome)⟩

end Converter

namespace ObjectFactory

/-- Builds by type name from a table and declines every other type. -/
def byType (table : List (String × (TypeDescriptor → Except NamingError Value))) : ObjectFactory :=
  ⟨fun d =>
    match table.find? (·.1 == d.typeName) with
    | some (_, build) => (build d).map some
    | none => .ok none⟩

end ObjectFactory

end NamingDirectory
