import NamingDirectory.Format.Basic
import NamingDirectory.Path.Delimiter
import NamingDirectory.Records
import NamingDirectory.Error
import NamingDirectory.Unicode.WhiteSpace

/-!
Records from block-structured text, keys joined to the name of their `[block]`.
-/

namespace NamingDirectory.Ini

open NamingDirectory.Unicode

/-- A line without its comment. -/
def stripComment (commentChar : Char) (line : String) : String :=
  String.ofList (line.toList.takeWhile (· != commentChar))

/-- Reads the lines, numbered from one, in the current block. -/
def readLines (commentChar : Char) (delimiter : Delimiter) :
    Option String → Records → List (Nat × String) → Except NamingError Records
  | _, records, [] => .ok records
  | block, records, (number, raw) :: rest =>
    let line := trim (stripComment commentChar raw)
    if line.isEmpty then readLines commentChar delimiter block records rest
    else
      match line.toList with
      | '[' :: header =>
        if header.getLast? != some ']' then
          .error (.parse ("Unterminated block header on line " ++ toString number ++ ": " ++ line))
        else
          let name := trim (String.ofList header.dropLast)
          readLines commentChar delimiter (if name.isEmpty then none else some name) records rest
      | chars =>
        let (key, value) := chars.span (· != '=')
        let key := trim (String.ofList key)
        let value := trim (String.ofList (value.drop 1))
        if key.isEmpty then readLines commentChar delimiter block records rest
        else
          let full := match block with
            | some name => delimiter.join [name, key]
            | none => key
          readLines commentChar delimiter block (records.insert full value) rest

/-- The records of a block-structured text. -/
def read (commentChar : Char) (content : String) (delimiter : Delimiter) :
    Except NamingError Records :=
  readLines commentChar delimiter none Records.empty
    ((lines content).zipIdx.map fun (line, index) => (index + 1, line))

end NamingDirectory.Ini
