import NamingDirectory.Format.Read

/-!
Record sources that hold text, read from bytes or files within 10 MiB.
-/

namespace NamingDirectory

/-- The largest source, in bytes. -/
def maxSourceSize : Nat := 10 * 1024 * 1024

/-- Record text with its format and where its records go. -/
structure TextSource where
  name : String
  scope : Option String := none
  format : RecordFormat
  content : String
  commentChar : Char := defaultCommentChar
  deriving Repr, Inhabited

/-- What a file system holds under a file name. -/
inductive StoredFile where
  | missing
  | directory
  | bytes (data : ByteArray)
  /-- A file of `length` zero bytes. -/
  | zeros (length : Nat)

namespace TextSource

/-- A source of text in a format, named by the format. -/
def new (format : RecordFormat) (content : String) : TextSource :=
  { name := format.name, format, content }

/-- A source from bytes, checking the size limit and the encoding. -/
def ofBytes (format : RecordFormat) (data : ByteArray) : Except NamingError TextSource :=
  let head := data.extract 0 (maxSourceSize + 1)
  match String.fromUTF8? head with
  | none => .error (.ioError "stream did not contain valid UTF-8")
  | some content =>
    if head.size > maxSourceSize then
      .error (.sourceError format.name
        ("Record source too large (max " ++ toString maxSourceSize ++ " bytes)"))
    else .ok (new format content)

/-- The size of a stored file, as the file system reports it. -/
def fileSize : StoredFile → Nat
  | .missing => 0
  | .directory => 4096
  | .bytes data => data.size
  | .zeros length => length

/-- A source from a file, named by the file. -/
def ofFile (fileName : String) (file : StoredFile) (format : RecordFormat) :
    Except NamingError TextSource :=
  let failed := fun message => Except.error (NamingError.sourceError fileName message)
  match file with
  | .missing => failed "Failed to read file metadata"
  | _ =>
    if fileSize file > maxSourceSize then
      failed ("Record source too large: " ++ toString (fileSize file) ++ " bytes (max " ++
        toString maxSourceSize ++ " bytes)")
    else
      match file with
      | .bytes data =>
        match String.fromUTF8? data with
        | some content => .ok { new format content with name := fileName }
        | none => failed "Failed to read record source"
      | .zeros length =>
        .ok { new format (String.ofList (List.replicate length (Char.ofNat 0))) with name := fileName }
      | _ => failed "Failed to read record source"

/-- The records of the source. A malformed text's message names the source. -/
def records (s : TextSource) (delimiter : Delimiter) : Except NamingError Records :=
  match s.format.read s.commentChar s.content delimiter with
  | .error (.parseError message) => .error (.parseError (message.append (" (" ++ s.name ++ ")")))
  | result => result

end TextSource

end NamingDirectory
