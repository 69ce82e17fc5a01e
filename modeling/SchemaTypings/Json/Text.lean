import SchemaTypings.Json.Value
import SchemaTypings.Text.Hexadecimal
import SchemaTypings.Decimal.Shortest

/-! # JSON text

The compact text of a value: no blanks, keys in document order, only the characters that must be
escaped escaped.
-/
namespace SchemaTypings

open Decimal (Binary64 Digits Layout)

namespace Number

/-- Doubles are positional between `1e-5` and `1e16` and scientific outside, with the sign of the
exponent always written. -/
def layout : Layout := ⟨-4, 16, "+"⟩

/-- The text of a double: its shortest digits, with at least one decimal when positional. -/
def realText (x : Binary64) : String :=
  let sign := if x.negative then "-" else ""
  if x.isZero then sign ++ "0.0" else sign ++ layout.write (Digits.shortest x)

/-- The text of a number. -/
def text : Number → String
  | .integer n => toString n
  | .real x => realText x

end Number

namespace Json

/-- How one character stands inside a JSON string. -/
def escapeChar (c : Char) : List Char :=
  if c = '"' then ['\\', '"']
  else if c = '\\' then ['\\', '\\']
  else if c = '\n' then ['\\', 'n']
  else if c = '\r' then ['\\', 'r']
  else if c = '\t' then ['\\', 't']
  else if c = '\x08' then ['\\', 'b']
  else if c = '\x0c' then ['\\', 'f']
  else if c.toNat < 0x10 then ['\\', 'u', '0', '0', '0'] ++ Text.hexDigits c.toNat
  else if c.toNat < 0x20 then ['\\', 'u', '0', '0'] ++ Text.hexDigits c.toNat
  else [c]

/-- A text as a JSON string. -/
def quote (s : String) : String :=
  String.ofList ('"' :: (s.toList.flatMap escapeChar ++ ['"']))

mutual

/-- **The compact text of a value.** -/
def text : Json → String
  | .null => "null"
  | .bool true => "true"
  | .bool false => "false"
  | .number n => n.text
  | .string s => quote s
  | .array items => "[" ++ ",".intercalate (itemTexts items) ++ "]"
  | .object entries => "\x7b" ++ ",".intercalate (entryTexts entries) ++ "\x7d"

/-- The texts of the items of an array. -/
def itemTexts : List Json → List String
  | [] => []
  | item :: rest => text item :: itemTexts rest

/-- The texts of the entries of an object, each with its key. -/
def entryTexts : List (String × Json) → List String
  | [] => []
  | (key, value) :: rest => (quote key ++ ":" ++ text value) :: entryTexts rest

end

end Json
end SchemaTypings
