import NamingDirectory.Format.Basic
import NamingDirectory.Records
import NamingDirectory.Unicode.WhiteSpace

/-!
Records from flat `key=value` text with continued lines and comments.
-/

namespace NamingDirectory.Properties

open NamingDirectory.Unicode

/-- Whether a line goes on in the next: it ends in an odd number of backslashes. -/
def continues (piece : String) : Bool :=
  (piece.toList.reverse.takeWhile (· == '\\')).length % 2 == 1

/-- Joins continued lines. `pending` holds the joined text of a line that goes on. -/
def logicalLines : Option String → List String → List String
  | pending, [] => pending.toList
  | pending, raw :: rest =>
    let piece := if pending.isSome then trimStart raw else raw
    let line := pending.getD "" ++ (if continues piece then String.ofList piece.toList.dropLast else piece)
    if continues piece then logicalLines (some line) rest else line :: logicalLines none rest

/-- The key and value of a line, or `none` for a comment or an empty key. -/
def entry? (line : String) : Option (String × String) :=
  let line := trim line
  if line.isEmpty || line.startsWith "#" || line.startsWith "!" then none
  else
    let (key, rest) := line.toList.span fun c => c != '=' && c != ':'
    let key := trim (String.ofList key)
    let value := trim (String.ofList (rest.drop 1))
    if key.isEmpty then none else some (key, value)

/-- The records of a properties text. -/
def read (content : String) : Records :=
  Records.ofList ((logicalLines none (lines content)).filterMap entry?)

end NamingDirectory.Properties
