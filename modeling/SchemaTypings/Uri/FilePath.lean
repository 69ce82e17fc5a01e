import SchemaTypings.Text.Utf8
import SchemaTypings.Uri.Reader

/-! # File paths and file URIs

An absolute path and its file URI name the same file: the segments of the URI are the names of the
path, percent encoded.
-/
namespace SchemaTypings
namespace Uri

/-- The file URI of an absolute path. -/
def ofFilePath (path : String) : Uri :=
  let names := (Text.pieces (· = '/') path.toList).filter fun name => !name.isEmpty
  let encoded := names.flatMap fun name => '/' :: Percent.encode Percent.inFileName name
  { Reader.emptyFile with path := .rooted (String.ofList (if encoded.isEmpty then ['/'] else encoded)) }

/-- Whether a path ends like a drive. -/
def endsInDrive (path : List Char) : Bool :=
  match path.reverse with
  | mark :: letter :: _ => (mark = ':' || mark = '|') && letter.isAlpha
  | _ => false

/-- The absolute path of a file URI; a path that ends like a drive is its root directory.  A URI
with a host names no local file. -/
def filePath? (u : Uri) : Option String :=
  match u.host, u.path with
  | some (.name ""), .rooted text =>
    let path := Text.Utf8.shown (Percent.decode text.toList)
    some (String.ofList (if endsInDrive path then path ++ ['/'] else path))
  | _, _ => none

end Uri
end SchemaTypings
