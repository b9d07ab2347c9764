import NamingDirectory.Format.Properties
import NamingDirectory.Format.Ini
import NamingDirectory.Format.Xml
import NamingDirectory.Format.Yaml

/-!
Reading records from text in any of the formats.
-/

namespace NamingDirectory

/-- The records of a text in a format; `commentChar` is used by block-structured text. -/
def RecordFormat.read (format : RecordFormat) (commentChar : Char) (content : String)
    (delimiter : Delimiter) : Except NamingError Records :=
  match format with
  | .properties => .ok (Properties.read content)
  | .ini => Ini.read commentChar content delimiter
  | .xml => Xml.read content delimiter
  | .yaml => Yaml.read content delimiter

end NamingDirectory
