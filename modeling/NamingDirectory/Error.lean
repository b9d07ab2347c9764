/-!
The failures of the naming directory and the function that words them.
-/

namespace NamingDirectory

/-- The words of a failure whose text may end in the diagnosis of a third-party reader. -/
inductive Diagnosis where
  /-- A message composed whole. -/
  | stated (message : String)
  /-- The words before and after the YAML or XML reader's own diagnosis, which has no stable text. -/
  | wrapped (before after : String)
  deriving Repr, Inhabited, DecidableEq

namespace Diagnosis

/-- The whole text, where it does not depend on a third-party reader's wording. -/
def text? : Diagnosis → Option String
  | .stated message => some message
  | .wrapped .. => none

/-- The diagnosis with words added at its end. -/
def append : Diagnosis → String → Diagnosis
  | .stated message, suffix => .stated (message ++ suffix)
  | .wrapped before after, suffix => .wrapped before (after ++ suffix)

end Diagnosis

/-- Why an operation of the directory failed. -/
inductive NamingError where
  /-- The name is not bound. -/
  | notFound (name : String)
  /-- The name is already bound. -/
  | alreadyBound (name : String)
  /-- A segment that must name a node is bound to a value. -/
  | notANode (name : String)
  /-- The path cannot be used for the operation. -/
  | invalidPath (message : String)
  /-- A typed record could not be converted; `cause` is the converter's reason. -/
  | conversionFailure (name typeName cause : String)
  /-- A node was required where a value is bound. -/
  | structuralConflict (name : String)
  /-- The node has been closed. -/
  | closed (name : String)
  /-- The node's name was fixed before. -/
  | nameLocked (current requested : String)
  /-- A record source could not be read. -/
  | sourceError (sourceName message : String)
  /-- A record text is malformed. -/
  | parseError (message : Diagnosis)
  /-- A configuration is invalid. -/
  | invalidConfig (message : Diagnosis)
  /-- Bytes could not be read as text. -/
  | ioError (message : String)
  deriving Repr, Inhabited, DecidableEq

namespace NamingError

/-- The name of the kind of failure. -/
def kind : NamingError → String
  | .notFound _ => "NotFound"
  | .alreadyBound _ => "AlreadyBound"
  | .notANode _ => "NotANode"
  | .invalidPath _ => "InvalidPath"
  | .conversionFailure .. => "ConversionFailure"
  | .structuralConflict _ => "StructuralConflict"
  | .closed _ => "Closed"
  | .nameLocked .. => "NameLocked"
  | .sourceError .. => "SourceError"
  | .parseError _ => "ParseError"
  | .invalidConfig _ => "InvalidConfig"
  | .ioError _ => "IoError"

/-- The text of a failure, or `none` where it ends in a third-party reader's diagnosis. -/
def message? : NamingError → Option String
  | .notFound name => some ("Name not found: " ++ name)
  | .alreadyBound name => some ("Name already bound: " ++ name)
  | .notANode name => some ("Name is bound to a value, not a node: " ++ name)
  | .invalidPath message => some ("Invalid path: " ++ message)
  | .conversionFailure name typeName cause =>
    some ("Failed to convert '" ++ name ++ "' to type " ++ typeName ++ ": " ++ cause)
  | .structuralConflict name =>
    some ("Structural conflict: " ++ name ++ " is bound to a value but a node is required")
  | .closed name => some ("Node has been closed: " ++ name)
  | .nameLocked current requested =>
    some ("Node name is locked to '" ++ current ++ "', cannot rename to '" ++ requested ++ "'")
  | .sourceError sourceName message =>
    some ("Record source '" ++ sourceName ++ "' error: " ++ message)
  | .parseError message => message.text?.map ("Failed to parse records: " ++ ·)
  | .invalidConfig message => message.text?.map ("Invalid naming configuration: " ++ ·)
  | .ioError message => some ("I/O error: " ++ message)

/-- An invalid configuration with a stated reason. -/
def config (message : String) : NamingError := .invalidConfig (.stated message)

/-- A malformed record text with a stated reason. -/
def parse (message : String) : NamingError := .parseError (.stated message)

end NamingError

end NamingDirectory
