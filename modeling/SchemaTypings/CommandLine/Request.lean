import SchemaTypings.Json.Reader
import SchemaTypings.Uri.FilePath

/-! # What the command line asks of the file system

A run asks for one thing at a time and is told the reply.  Everything it has been told so far decides
how it goes on, so a run is a function of the replies and can be repeated.
-/
namespace SchemaTypings
namespace CommandLine

/-- Why the file system does not do what it was asked. -/
inductive FileFault where
  | missing
  | denied
  /-- A file stands where the path needs a directory. -/
  | notDirectory
  /-- A directory stands where the path needs a file. -/
  | isDirectory
  | nameTooLong
  /-- The path holds the character NUL. -/
  | nulInName
  /-- The file does not hold text. -/
  | notText
  | other (message : String)
  deriving DecidableEq, Repr

namespace FileFault

/-- The wording of a fault. -/
def message : FileFault → String
  | missing => "No such file or directory (os error 2)"
  | denied => "Permission denied (os error 13)"
  | notDirectory => "Not a directory (os error 20)"
  | isDirectory => "Is a directory (os error 21)"
  | nameTooLong => "File name too long (os error 36)"
  | nulInName => "file name contained an unexpected NUL byte"
  | notText => "invalid unicode code point"
  | other message => message

/-- Whether a fault shows only when an open file is read: directories can be opened. -/
def isOfReading : FileFault → Bool
  | isDirectory | notText => true
  | _ => false

end FileFault

/-- **What a run asks for.** -/
inductive Request where
  /-- The text of a file. -/
  | read (path : String)
  /-- The text of the file that a URI names. -/
  | fetch (uri path : String)
  /-- The absolute path of a file, without links. -/
  | locate (path : String)
  /-- That a file holds this text from now on; the reply is empty. -/
  | write (path text : String)
  deriving DecidableEq, Repr

/-- The reply to a request. -/
abbrev Reply := Except FileFault String

/-- The replies so far. -/
abbrev Known := List (Request × Reply)

namespace Known

/-- The document that a reply holds, or why it holds none. -/
def document (path : String) : Reply → Except String Json
  | .error fault => .error (path ++ ": " ++ fault.message)
  | .ok text => (Json.read? text).mapError fun e => path ++ ": " ++ e.message

/-- The documents that were fetched, by their URI. -/
def documents (known : Known) : Dict (Except String Json) :=
  known.filterMap fun
    | (.fetch uri path, reply) => some (uri, document path reply)
    | _ => none

end Known

/-- The path of the document at a URI, or why the URI has none: documents are local files. -/
def documentPath (uri : Uri) : Except String String :=
  if uri.scheme ≠ "file" then .error ("unsupported scheme `" ++ uri.scheme ++ "`")
  else match uri.filePath? with
    | some path => .ok path
    | none => .error ("not a local path: " ++ uri.text)

end CommandLine
end SchemaTypings
