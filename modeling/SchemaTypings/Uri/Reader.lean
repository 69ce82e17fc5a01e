import SchemaTypings.Uri.Basic
import SchemaTypings.Uri.Domain
import SchemaTypings.Uri.Trail

/-! # Reading URIs

`Uri.read?` reads an absolute URI and `Uri.join?` reads a reference against a base, both with the
rules of the web: blanks at the ends and line breaks anywhere are dropped, dot segments are
resolved, backslashes separate segments in the web's own schemes, and every part is percent
encoded with the set that belongs to it.
-/
namespace SchemaTypings
namespace Uri

namespace Reader

/-! ### Pieces of a reference -/

/-- The text without blanks and controls at its ends and without tabs and line breaks. -/
def clean (cs : List Char) : List Char :=
  let isOuter (c : Char) : Bool := c.toNat ≤ 0x20
  let trimmed := ((cs.dropWhile isOuter).reverse.dropWhile isOuter).reverse
  trimmed.filter fun c => c ≠ '\t' && c ≠ '\n' && c ≠ '\r'

/-- Whether a character may stand in a scheme after its first letter. -/
def inScheme (c : Char) : Bool := c.isAlphanum || c = '+' || c = '-' || c = '.'

/-- A scheme in small letters and what stands after its colon. -/
def scheme? (cs : List Char) : Option (String × List Char) :=
  match cs with
  | [] => none
  | c :: _ =>
    if ¬ c.isAlpha then none else
    match cs.dropWhile inScheme with
    | ':' :: rest => some (String.ofList ((cs.takeWhile inScheme).map Char.toLower), rest)
    | _ => none

/-- Whether a character separates path segments. -/
def isSlash (special : Bool) (c : Char) : Bool := c = '/' || (special && c = '\\')

/-- Whether a character starts the query or the fragment. -/
def endsPath (c : Char) : Bool := c = '?' || c = '#'

/-- Query and fragment, from the end of the path on. -/
def queryAndFragment (special : Bool) (cs : List Char) : Option String × Option String :=
  let inQuery := if special then Percent.inSpecialQuery else Percent.inQuery
  let fragment (cs : List Char) : String := String.ofList (Percent.encode Percent.inFragment cs)
  match cs with
  | '?' :: rest =>
    let (query, after) := Text.splitOnce (· = '#') rest
    (some (String.ofList (Percent.encode inQuery query)), after.map fragment)
  | '#' :: rest => (none, some (fragment rest))
  | _ => (none, none)

/-! ### Paths -/

/-- The trail of the path in a reference, continued from `start`. -/
def trail (scheme : String) (start : List Char) (cs : List Char) : Trail :=
  let path := cs.takeWhile fun c => !endsPath c
  Trail.ofPieces (isFileScheme scheme) start (Text.pieces (isSlash (isSpecialScheme scheme)) path)

/-- The URI `u` with its path continued from `start`, and with query and fragment. -/
def withPath (u : Uri) (start : List Char) (cs : List Char) : Uri :=
  let (query, fragment) := queryAndFragment (isSpecialScheme u.scheme)
    (cs.dropWhile fun c => !endsPath c)
  { u with path := .rooted (String.ofList (trail u.scheme start cs).path), query, fragment }

/-- The URI `u` with the path that follows its host.  The web's own schemes always have one. -/
def withRootedPath (u : Uri) (cs : List Char) : Uri :=
  match cs with
  | c :: rest =>
    if isSpecialScheme u.scheme then
      withPath u ['/'] (if isSlash true c then rest else cs)
    else if c = '/' ∨ endsPath c then withPath u [] cs
    else withPath u ['/'] cs
  | [] => withPath u (if isSpecialScheme u.scheme then ['/'] else []) []

/-- The URI with everything of `base` but its fragment, and the fragment that `cs` holds. -/
def withQueryAndFragment (base : Uri) (cs : List Char) : Uri :=
  let (query, fragment) := queryAndFragment (isSpecialScheme base.scheme) cs
  match cs with
  | '?' :: _ => { base with query, fragment }
  | _ => { base with fragment }

/-! ### Hosts -/

/-- A host between square brackets. -/
def bracketed? (cs : List Char) : Except Fault Host :=
  if cs.getLast? ≠ some ']' then .error .invalidV6
  else match Address.v6? (cs.drop 1).dropLast with
    | some groups => .ok (.v6 groups)
    | none => .error .invalidV6

/-- The host of a web scheme: an address or a domain name in ASCII. -/
def specialHost? (cs : List Char) : Except Fault Host :=
  if cs.head? = some '[' then bracketed? cs else
  match (Percent.utf8? (Percent.decode cs)).bind fun name => Domain.toAscii? name.toList with
  | none => .error .invalidDomain
  | some [] => .error .emptyHost
  | some name =>
    if Address.endsInNumber name then
      match Address.v4? name with
      | some address => .ok (.v4 address)
      | none => .error .invalidV4
    else .ok (.name (String.ofList name))

/-- Characters that no opaque host holds. -/
def isForbiddenInHost (c : Char) : Bool :=
  c ∈ ['\x00', '\t', '\n', '\r', ' ', '#', '/', ':', '<', '>', '?', '@', '[', '\\', ']', '^', '|']

/-- The host of any other scheme. -/
def opaqueHost? (cs : List Char) : Except Fault Host :=
  if cs.head? = some '[' then bracketed? cs
  else if cs.any isForbiddenInHost then .error .invalidHostCharacter
  else .ok (.name (String.ofList (Percent.encode Percent.isControl cs)))

/-- The characters of a host: up to a slash, a colon outside brackets, the query or the fragment. -/
def hostSpan (special : Bool) : Bool → List Char → List Char × List Char
  | _, [] => ([], [])
  | inside, c :: rest =>
    if (c = ':' && !inside) || isSlash special c || endsPath c then ([], c :: rest)
    else
      let inside := if c = '[' then true else if c = ']' then false else inside
      let (host, after) := hostSpan special inside rest
      (c :: host, after)

/-- User name and password before the host, and the rest.  They end at the last `@` before the
path. -/
def userInfo (special : Bool) (cs : List Char) :
    Except Fault (String × Option String × List Char) :=
  let span := cs.takeWhile fun c => !(isSlash special c || endsPath c)
  if ¬ span.contains '@' then .ok ("", none, cs) else
  let hostLength := (span.reverse.takeWhile (· ≠ '@')).length
  let info := span.take (span.length - hostLength - 1)
  let rest := cs.drop (span.length - hostLength)
  if info.isEmpty then
    match rest with
    | c :: _ => if isSlash special c || endsPath c then .error .emptyHost else .ok ("", none, rest)
    | [] => .ok ("", none, rest)
  else
    let encode (cs : List Char) : String := String.ofList (Percent.encode Percent.inUserInfo cs)
    let (name, password) := Text.splitOnce (· = ':') info
    let password := match password with
      | some (c :: more) => some (encode (c :: more))
      | _ => none
    .ok (encode name, password, rest)

/-- The largest port. -/
def maxPort : Nat := 65535

/-- The port after a colon, and the rest.  The default port of the scheme is not kept. -/
def port? (scheme : String) (cs : List Char) : Except Fault (Option Nat × List Char) :=
  let digits := cs.takeWhile Char.isDigit
  let rest := cs.dropWhile Char.isDigit
  let port := digits.foldl (fun n c => n * 10 + (c.toNat - 48)) 0
  if maxPort < port then .error .invalidPort
  else if rest.head?.any fun c => c ∉ ['/', '\\', '?', '#'] then .error .invalidPort
  else if digits.isEmpty ∨ defaultPort? scheme = some port then .ok (none, rest)
  else .ok (some port, rest)

/-- A URI from its host on, after the double slash. -/
def fromAuthority (scheme : String) (cs : List Char) : Except Fault Uri := do
  let special := isSpecialScheme scheme
  let (username, password, afterInfo) ← userInfo special cs
  let (span, afterHost) := hostSpan special false afterInfo
  if special ∧ span.isEmpty then throw .emptyHost
  let host ← if special then specialHost? span else opaqueHost? span
  let hasPort := afterHost.head? = some ':'
  if host = .name "" ∧ hasPort then throw .emptyHost
  let (port, rest) ← if hasPort then port? scheme (afterHost.drop 1) else pure (none, afterHost)
  if host = .name "" ∧ (username ≠ "" ∨ password.isSome) then throw .emptyHost
  let u : Uri :=
    { scheme, username, password, host := some host, port
      path := .rooted "", query := none, fragment := none }
  return withRootedPath u rest

/-! ### Whole references -/

/-- A file URI without host and path. -/
def emptyFile : Uri :=
  { scheme := "file", username := "", password := none, host := some (.name ""), port := none
    path := .rooted "", query := none, fragment := none }

/-- A file URI after its double slash. -/
def fileAuthority (cs : List Char) : Except Fault Uri :=
  let isEnd (c : Char) : Bool := isSlash true c || endsPath c
  let span := cs.takeWhile fun c => !isEnd c
  let rest := cs.dropWhile fun c => !isEnd c
  if Trail.isDrive [':', '|'] span then .ok (withPath emptyFile ['/'] cs)
  else if span.isEmpty then .ok (withPath emptyFile ['/'] rest)
  else match specialHost? span with
    | .error e => .error e
    | .ok host =>
      if host = .name "localhost" then .ok (withPath emptyFile ['/'] rest)
      else
        let cs := if rest.head?.any (isSlash true) then rest.drop 1 else rest
        -- a path whose first segment is a drive takes no host
        let host := if (trail "file" ['/'] cs).hasDrive then .name "" else host
        .ok (withPath { emptyFile with host := some host } ['/'] cs)

/-- The host and the drive that a rooted file path takes from its base. -/
def fileRoot (base : Option Uri) (cs : List Char) : Uri × List Char :=
  match base with
  | none => (emptyFile, [])
  | some base =>
    if Trail.startsWithDrive cs then (emptyFile, []) else
    let first := (base.path.rootedChars.drop 1).takeWhile (· ≠ '/')
    if Trail.isDrive [':'] first then (emptyFile, '/' :: first)
    else ({ emptyFile with host := base.host }, [])

/-- A file reference after its scheme. -/
def file (base : Option Uri) (cs : List Char) : Except Fault Uri :=
  match cs with
  | c :: rest =>
    if isSlash true c then
      if rest.head?.any (isSlash true) then fileAuthority (rest.drop 1)
      else
        let (u, start) := fileRoot base rest
        .ok (withPath u start cs)
    else match base with
      | none => .ok (withPath emptyFile ['/'] cs)
      | some base =>
        if endsPath c then .ok (withQueryAndFragment base cs)
        else if Trail.startsWithDrive cs then .ok (withPath emptyFile ['/'] cs)
        else .ok (withPath base (Trail.up true base.path.rootedChars) cs)
  | [] => match base with
    | none => .ok (withPath emptyFile ['/'] [])
    | some base => .ok { base with fragment := none }

/-- A reference without scheme against a base with a hierarchical path. -/
def relative (base : Uri) (cs : List Char) : Except Fault Uri :=
  match cs with
  | [] => .ok { base with fragment := none }
  | c :: rest =>
    if endsPath c then .ok (withQueryAndFragment base cs)
    else if isSlash true c then
      match rest with
      | d :: more =>
        if c = '/' ∧ d = '/' then fromAuthority base.scheme more
        else if isSlash true d then
          fromAuthority base.scheme (cs.dropWhile (isSlash true))
        else .ok (withPath base ['/'] rest)
      | [] => .ok (withPath base ['/'] rest)
    else
      let above := Trail.up false base.path.rootedChars
      .ok (withPath base (if above.isEmpty then ['/'] else above) cs)

/-- A URI of another scheme than the web's own, after its colon. -/
def general (scheme : String) (cs : List Char) : Except Fault Uri :=
  let bare : Uri :=
    { scheme, username := "", password := none, host := none, port := none
      path := .rooted "", query := none, fragment := none }
  match cs with
  | '/' :: '/' :: rest => fromAuthority scheme rest
  | '/' :: rest => .ok (withPath bare ['/'] rest)
  | cs =>
    let path := cs.takeWhile fun c => !endsPath c
    let (query, fragment) := queryAndFragment false (cs.dropWhile fun c => !endsPath c)
    .ok { bare with
      path := .opaqueText (String.ofList (Percent.encode Percent.isControl path)), query, fragment }

/-- A reference that names its scheme. -/
def withScheme (base : Option Uri) (scheme : String) (cs : List Char) : Except Fault Uri :=
  if isFileScheme scheme then file (base.filter fun b => isFileScheme b.scheme) cs
  else if isSpecialScheme scheme then
    let slashes := (cs.takeWhile (isSlash true)).length
    match base.filter fun b => b.scheme = scheme with
    | some base =>
      if slashes < 2 then relative base cs else fromAuthority scheme (cs.drop slashes)
    | none => fromAuthority scheme (cs.drop slashes)
  else general scheme cs

/-- A reference, with the base it is read against. -/
def reference (base : Option Uri) (cs : List Char) : Except Fault Uri :=
  match scheme? cs with
  | some (scheme, rest) => withScheme base scheme rest
  | none =>
    match base with
    | none => .error .relativeWithoutBase
    | some base =>
      if cs.head? = some '#' then .ok (withQueryAndFragment base cs)
      else if base.isOpaque then .error .relativeToOpaque
      else if isFileScheme base.scheme then file (some base) cs
      else relative base cs

end Reader

/-- **Reads an absolute URI.** -/
def read? (s : String) : Except Fault Uri := Reader.reference none (Reader.clean s.toList)

/-- **Reads a reference against a base.** -/
def join? (base : Uri) (s : String) : Except Fault Uri :=
  Reader.reference (some base) (Reader.clean s.toList)

end Uri
end SchemaTypings
