import SchemaTypings.Uri.Address

/-! # URIs

A URI in its parts, and the one text that stands for it.  Two URIs are the same document exactly
when their texts are equal.
-/
namespace SchemaTypings

namespace Uri

/-- Why a text is not a URI. -/
inductive Fault where
  | emptyHost
  | invalidDomain
  | invalidPort
  | invalidV4
  | invalidV6
  | invalidHostCharacter
  | relativeWithoutBase
  | relativeToOpaque
  deriving DecidableEq, Repr

/-- The wording of a fault. -/
def Fault.message : Fault → String
  | .emptyHost => "empty host"
  | .invalidDomain => "invalid international domain name"
  | .invalidPort => "invalid port number"
  | .invalidV4 => "invalid IPv4 address"
  | .invalidV6 => "invalid IPv6 address"
  | .invalidHostCharacter => "invalid domain character"
  | .relativeWithoutBase => "relative URL without a base"
  | .relativeToOpaque => "relative URL with a cannot-be-a-base base"

/-- Where a URI points to: a name, which may be empty, or an address. -/
inductive Host where
  | name (text : String)
  | v4 (address : Nat)
  | v6 (groups : List Nat)
  deriving DecidableEq, Repr

/-- The text of a host. -/
def Host.text : Host → String
  | .name text => text
  | .v4 address => Address.v4Text address
  | .v6 groups => "[" ++ Address.v6Text groups ++ "]"

/-- A path: one opaque text, or segments, each behind a slash. -/
inductive Path where
  | opaqueText (text : String)
  | rooted (text : String)
  deriving DecidableEq, Repr

/-- The text of a path. -/
def Path.text : Path → String
  | .opaqueText text => text
  | .rooted text => text

/-- The characters of the segments and their slashes; an opaque path has none. -/
def Path.rootedChars : Path → List Char
  | .opaqueText _ => []
  | .rooted text => text.toList

end Uri

open Uri in
/-- **A URI in its parts.**  Credentials and port belong to the host; a file URI always has a host,
which may be empty. -/
structure Uri where
  scheme : String
  username : String
  password : Option String
  host : Option Host
  port : Option Nat
  path : Path
  query : Option String
  fragment : Option String
  deriving DecidableEq, Repr

namespace Uri

/-- The port that a scheme uses when none is written. -/
def defaultPort? (scheme : String) : Option Nat :=
  match scheme with
  | "http" | "ws" => some 80
  | "https" | "wss" => some 443
  | "ftp" => some 21
  | _ => none

/-- Whether a scheme is `file`. -/
def isFileScheme (scheme : String) : Bool := scheme = "file"

/-- Whether a scheme has the special rules of the web: `file` and those with a default port. -/
def isSpecialScheme (scheme : String) : Bool :=
  isFileScheme scheme || (defaultPort? scheme).isSome

/-- The credentials as they stand before the host. -/
def credentials (u : Uri) : String :=
  match u.username, u.password with
  | "", none => ""
  | name, none => name ++ "@"
  | name, some password => name ++ ":" ++ password ++ "@"

/-- Everything between scheme and path. -/
def authority (u : Uri) : String :=
  match u.host with
  | some host =>
    "//" ++ u.credentials ++ host.text ++
      (match u.port with
        | some port => ":" ++ toString port
        | none => "")
  | none =>
    match u.path.rootedChars with
    -- a path that starts with two slashes must not read as a host
    | '/' :: '/' :: _ => "/."
    | _ => ""

/-- **The text of a URI.** -/
def text (u : Uri) : String :=
  u.scheme ++ ":" ++ u.authority ++ u.path.text ++
    (match u.query with
      | some query => "?" ++ query
      | none => "") ++
    (match u.fragment with
      | some fragment => "#" ++ fragment
      | none => "")

/-- Whether the path is opaque, so that nothing can be resolved against it. -/
def isOpaque (u : Uri) : Bool :=
  match u.path with
  | .opaqueText _ => true
  | .rooted _ => false

/-- An opaque path without blanks at its end. -/
def Path.trimmed : Path → Path
  | .opaqueText text =>
    .opaqueText (String.ofList (text.toList.reverse.dropWhile (· = ' ')).reverse)
  | path => path

/-- The URI of the document, without the fragment.  Blanks that end an opaque path go with it. -/
def document (u : Uri) : Uri :=
  { u with
    fragment := none
    path := if u.query.isSome then u.path else u.path.trimmed }

end Uri
end SchemaTypings
