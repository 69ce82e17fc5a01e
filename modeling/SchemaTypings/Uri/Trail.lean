import SchemaTypings.Uri.Percent

/-! # The path of a URI as it is read

A path grows segment by segment.  A dot segment stays where it is, a double dot goes up one segment.
A drive, such as `C:`, is never left: in files because nothing is above it, elsewhere because its
slash stays.
-/
namespace SchemaTypings
namespace Uri

/-- The path so far, every segment behind a slash. -/
structure Trail where
  path : List Char
  /-- Whether the first segment of a file path was read as a drive. -/
  hasDrive : Bool := false

namespace Trail

/-- Whether a segment stands for the directory itself. -/
def isSingleDot (segment : String) : Bool := segment ∈ [".", "%2e", "%2E"]

/-- Whether a segment stands for the directory above. -/
def isDoubleDot (segment : String) : Bool :=
  segment ∈ ["..", "%2e%2e", "%2e%2E", "%2E%2e", "%2E%2E", "%2e.", "%2E.", ".%2e", ".%2E"]

/-- Whether a segment is a letter followed by one of the marks of a drive. -/
def isDrive (marks : List Char) (segment : List Char) : Bool :=
  match segment with
  | [letter, mark] => letter.isAlpha && mark ∈ marks
  | _ => false

/-- Whether a text starts with a drive: nothing, or what ends a segment, stands behind it. -/
def startsWithDrive (cs : List Char) : Bool :=
  match cs with
  | letter :: mark :: rest =>
    letter.isAlpha && (mark = ':' || mark = '|') &&
      rest.head?.all fun c => c ∈ ['/', '\\', '?', '#']
  | _ => false

/-- The characters behind the last slash. -/
def lastSegment (path : List Char) : List Char := (path.reverse.takeWhile (· ≠ '/')).reverse

/-- The path up to its last slash; a drive at the end of a file path stays. -/
def up (file : Bool) (path : List Char) : List Char :=
  if file && isDrive [':'] (lastSegment path) then path
  else (path.reverse.dropWhile (· ≠ '/')).reverse

/-- The path without the slash at its end, unless that is the first one or stands behind a drive. -/
def openEnd (path : List Char) : List Char :=
  match path.reverse with
  | '/' :: front =>
    if front.isEmpty || startsWithDrive (lastSegment front.reverse ++ ['/']) then path
    else front.reverse
  | _ => path

/-- The path with a slash at its end. -/
def closeEnd (path : List Char) : List Char :=
  if path.getLast? = some '/' then path else path ++ ['/']

/-- **The trail after one more segment**; `closed` tells whether a slash stands behind it. -/
def add (file : Bool) (t : Trail) (piece : List Char) (closed : Bool) : Trail :=
  let path :=
    if file && !piece.isEmpty && isDrive [':'] (t.path.drop 1) then t.path ++ ['/'] else t.path
  let segment := Percent.encode Percent.inPath piece
  let name := String.ofList segment
  let slash := if closed then ['/'] else []
  if isDoubleDot name then
    let above := up file (openEnd path)
    { t with path := if closed then closeEnd above else above }
  else if isSingleDot name then { t with path := closeEnd path }
  else if file && path.length = 1 && isDrive [':', '|'] segment then
    { path := path ++ segment.take 1 ++ [':'] ++ slash, hasDrive := true }
  else { t with path := path ++ segment ++ slash }

/-- Adds the segments of a reference, of which only the last has no slash behind it. -/
def addAll (file : Bool) : Trail → List (List Char) → Trail
  | t, [] => t
  | t, [last] => t.add file last false
  | t, piece :: rest => addAll file (t.add file piece true) rest

/-- **The trail of the segments behind `start`**.  File paths start with exactly one slash. -/
def ofPieces (file : Bool) (start : List Char) (pieces : List (List Char)) : Trail :=
  let t := addAll file { path := start } pieces
  if file then { t with path := '/' :: t.path.dropWhile (· = '/') } else t

end Trail
end Uri
end SchemaTypings
