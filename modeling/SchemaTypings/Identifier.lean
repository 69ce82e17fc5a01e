import SchemaTypings.Json.Text
import SchemaTypings.Keyword
import SchemaTypings.Pointer
import SchemaTypings.Text.Camel

/-! # Identifiers

Type names are made from arbitrary text: upper camel case, cut down to ASCII letters, digits, `_`
and `$`, with an underscore before a leading digit.  Property keys stand bare when they are
identifiers and as JSON strings otherwise.
-/
namespace SchemaTypings
namespace Identifier

/-- Whether a character may stand in an identifier. -/
def isPart (c : Char) : Bool := c.isAlphanum || c = '_' || c = '$'

/-- Whether a character may start an identifier. -/
def isStart (c : Char) : Bool := c.isAlpha || c = '_' || c = '$'

/-- Keeps the characters of an identifier and puts an underscore before a leading digit. -/
def clean (cs : List Char) : List Char :=
  match cs.filter isPart with
  | [] => []
  | c :: rest => if c.isDigit then '_' :: c :: rest else c :: rest

/-- **The type name for a text**; empty when nothing of an identifier is left. -/
def ofText (text : String) : String := String.ofList (clean (Text.upperCamel text.toList))

/-- Whether a key can stand as a bare property name. -/
def isIdentifier (key : String) : Bool :=
  match key.toList with
  | [] => false
  | c :: rest => isStart c && rest.all isPart

/-- A property key as it is written: bare if it is an identifier, quoted otherwise. -/
def keyText (key : String) : String := if isIdentifier key then key else Json.quote key

/-- The key of index signatures. -/
def indexSignature : String := "[k: string]"

/-- How one character of a number stands in an enum label. -/
def labelChar (c : Char) : List Char :=
  if c = '-' then ['M', 'i', 'n', 'u', 's'] else if c = '.' then ['_'] else [c]

/-- The text if it is not empty. -/
def nonEmpty (text : String) : Option String := if text.isEmpty then none else some text

/-- The label of an enum member with this value.  Only strings and numbers have one. -/
def enumLabel? : Json → Option String
  | .string s => nonEmpty (ofText s)
  | .number n => some (String.ofList ('_' :: n.text.toList.flatMap labelChar))
  | _ => none

/-- The file name without directory and extensions. -/
def fileStem (path : List Char) : List Char :=
  let file := ((Text.pieces (· = '/') path).getLast?).getD []
  (Text.splitOnce (· = '.') file).1

/-- **The name that a reference suggests**: its last segment, or the stem of the document's file
name when it has none.  Array positions and structural keywords suggest nothing. -/
def ofReference? (reference : String) : Option String :=
  let (document, fragment) := Text.splitOnce (· = '#') reference.toList
  match (Pointer.split (String.ofList (fragment.getD []))).getLast? with
  | some segment =>
    if segment.toList.all Char.isDigit || Keyword.isStructural segment then none
    else nonEmpty (ofText segment)
  | none => nonEmpty (ofText (String.ofList (fileStem document)))

end Identifier
end SchemaTypings
