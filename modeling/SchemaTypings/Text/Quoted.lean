import SchemaTypings.Text.Printable
import SchemaTypings.Text.Hexadecimal

/-! # Quoted text in messages

Names, keys and values inside a message are quoted so that every character can be told apart:
characters that do not show by themselves are written as escapes.
-/
namespace SchemaTypings
namespace Text

/-- A character as a braced hexadecimal escape. -/
def hexEscape (c : Char) : List Char :=
  ['\\', 'u', '\x7b'] ++ hexDigits c.toNat ++ ['\x7d']

/-- How one character stands inside quoted text. -/
def quotedChar (c : Char) : List Char :=
  if c = '"' then ['\\', '"']
  else if c = '\\' then ['\\', '\\']
  else if c = '\n' then ['\\', 'n']
  else if c = '\r' then ['\\', 'r']
  else if c = '\t' then ['\\', 't']
  else if c = '\x00' then ['\\', '0']
  else if isCombining c then hexEscape c
  else if isPrintable c then [c]
  else hexEscape c

/-- **Text in quotes**, with every character visible. -/
def quoted (s : String) : String :=
  String.ofList ('"' :: (s.toList.flatMap quotedChar ++ ['"']))

end Text
end SchemaTypings
