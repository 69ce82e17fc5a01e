import SchemaTypings.Text.Hexadecimal

/-! # Percent encoding

Characters outside an allowed set are written as the bytes of their UTF-8 form, each a `%` and two
capital hexadecimal digits.  Each part of a URI has its own set.
-/
namespace SchemaTypings
namespace Uri
namespace Percent

/-- A capital hexadecimal digit. -/
def hexDigit (n : Nat) : Char := if n < 10 then Char.ofNat (48 + n) else Char.ofNat (55 + n)

/-- A byte as an escape. -/
def escapeByte (b : UInt8) : List Char := ['%', hexDigit (b.toNat / 16), hexDigit (b.toNat % 16)]

/-- A character as escapes of its UTF-8 bytes. -/
def escapeChar (c : Char) : List Char := (String.utf8EncodeChar c).flatMap escapeByte

/-- Writes the characters of `set` as escapes. -/
def encode (set : Char → Bool) (cs : List Char) : List Char :=
  cs.flatMap fun c => if set c then escapeChar c else [c]

/-- The bytes behind a text: escapes stand for one byte, a `%` that starts none for itself. -/
def decode : List Char → List UInt8
  | '%' :: a :: b :: rest =>
    match Text.hexValue? a, Text.hexValue? b with
    | some x, some y => UInt8.ofNat (x * 16 + y) :: decode rest
    | _, _ => String.utf8EncodeChar '%' ++ decode (a :: b :: rest)
  | c :: rest => String.utf8EncodeChar c ++ decode rest
  | [] => []

/-- The text that bytes encode in UTF-8. -/
def utf8? (bytes : List UInt8) : Option String := String.fromUTF8? ⟨bytes.toArray⟩

/-- Controls and everything beyond ASCII. -/
def isControl (c : Char) : Bool := c.toNat < 0x20 || 0x7E < c.toNat

/-- Escaped in fragments. -/
def inFragment (c : Char) : Bool := isControl c || c ∈ [' ', '"', '<', '>', '\x60']

/-- Escaped in queries of schemes without special rules. -/
def inQuery (c : Char) : Bool := isControl c || c ∈ [' ', '"', '#', '<', '>']

/-- Escaped in queries of web schemes. -/
def inSpecialQuery (c : Char) : Bool := inQuery c || c = '\''

/-- Escaped in path segments. -/
def inPath (c : Char) : Bool := inFragment c || c ∈ ['#', '?', '\x7b', '\x7d']

/-- Escaped in user names and passwords. -/
def inUserInfo (c : Char) : Bool :=
  inPath c || c ∈ ['/', ':', ';', '=', '@', '[', '\\', ']', '^', '|']

/-- Escaped in path segments that come from file names. -/
def inFileName (c : Char) : Bool := inPath c || c ∈ ['/', '%', '\\']

end Percent
end Uri
end SchemaTypings
