/-!
The text formats that records are read from.
-/

namespace NamingDirectory

/-- A format of record text. -/
inductive RecordFormat where
  | properties
  | ini
  | xml
  | yaml
  deriving Repr, Inhabited, DecidableEq

namespace RecordFormat

/-- The name of the format. -/
def name : RecordFormat → String
  | .properties => "properties"
  | .ini => "ini"
  | .xml => "xml"
  | .yaml => "yaml"

/-- The format of a name. -/
def ofName? : String → Option RecordFormat
  | "properties" => some .properties
  | "ini" => some .ini
  | "xml" => some .xml
  | "yaml" => some .yaml
  | _ => none

/-- Every format, in the order above. -/
def all : List RecordFormat := [.properties, .ini, .xml, .yaml]

end RecordFormat

/-- The lines of a text, cut after each feed, a carriage return before it dropped; no empty last line. -/
def lines (text : String) : List String :=
  let pieces := text.toList.splitOn '\n'
  let pieces := if pieces.getLast? == some [] then pieces.dropLast else pieces
  let count := pieces.length
  let endsWithFeed := text.endsWith "\n"
  (pieces.zipIdx.map fun (piece, index) =>
    if index + 1 < count || endsWithFeed then
      if piece.getLast? == some '\r' then piece.dropLast else piece
    else piece).map String.ofList

/-- The comment character of block-structured text when none is configured. -/
def defaultCommentChar : Char := '#'

end NamingDirectory
