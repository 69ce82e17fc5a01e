import SchemaTypings.Json.Value
import SchemaTypings.Text.Hexadecimal
import SchemaTypings.Text.Utf8

/-! # Reading JSON

`Json.read?` reads exactly one value from a text, byte by byte: all marks of the format are ASCII,
and only strings hold other characters.  A refusal says what was wrong and where: the position is
that of the last byte looked at.  Arrays and objects nest at most 127 deep.
-/
namespace SchemaTypings
namespace Json

open Decimal (Binary64)

/-- Why a text is not a JSON value. -/
inductive Fault where
  | endInValue
  | endInString
  | endInArray
  | endInObject
  | expectedValue
  | expectedIdent
  | expectedColon
  | expectedItemEnd
  | expectedEntryEnd
  | keyNotString
  | trailingComma
  | trailingText
  | invalidNumber
  | numberTooLarge
  | invalidEscape
  | loneSurrogate
  | unfinishedSurrogate
  | controlCharacter
  | nestedTooDeep
  deriving DecidableEq, Repr

/-- The wording of a fault. -/
def Fault.message : Fault → String
  | .endInValue => "EOF while parsing a value"
  | .endInString => "EOF while parsing a string"
  | .endInArray => "EOF while parsing a list"
  | .endInObject => "EOF while parsing an object"
  | .expectedValue => "expected value"
  | .expectedIdent => "expected ident"
  | .expectedColon => "expected `:`"
  | .expectedItemEnd => "expected `,` or `]`"
  | .expectedEntryEnd => "expected `,` or `\x7d`"
  | .keyNotString => "key must be a string"
  | .trailingComma => "trailing comma"
  | .trailingText => "trailing characters"
  | .invalidNumber => "invalid number"
  | .numberTooLarge => "number out of range"
  | .invalidEscape => "invalid escape"
  | .loneSurrogate => "lone leading surrogate in hex escape"
  | .unfinishedSurrogate => "unexpected end of hex escape"
  | .controlCharacter => "control character (\\u0000-\\u001F) found while parsing a string"
  | .nestedTooDeep => "recursion limit exceeded"

/-- A fault at a place: lines count from one, columns count the bytes of the line looked at. -/
structure ReadError where
  fault : Fault
  line : Nat
  column : Nat
  deriving DecidableEq, Repr

/-- The wording of a refusal. -/
def ReadError.message (e : ReadError) : String :=
  e.fault.message ++ " at line " ++ toString e.line ++ " column " ++ toString e.column

namespace Reader

/-- The bytes of a text, each as the character of its number. -/
def bytesOf (s : String) : List Char := s.toList.flatMap fun c =>
  if c.toNat < 0x80 then [c] else (String.utf8EncodeChar c).map fun b => Char.ofNat b.toNat

/-- The text that bytes stand for. -/
def textOf (bytes : List Char) : String :=
  String.ofList (Text.Utf8.shown (bytes.map fun b => UInt8.ofNat b.toNat))

/-- A fault together with the bytes that had not been looked at. -/
structure Failure where
  fault : Fault
  unread : List Char

/-- A step reads a value off the front of some bytes. -/
abbrev Step (α : Type) := List Char → Except Failure (α × List Char)

/-- A failure found by looking at the first byte of `cs`. -/
def failure (fault : Fault) (cs : List Char) : Failure := ⟨fault, cs.tail⟩

/-- Blanks between tokens. -/
def isBlank (c : Char) : Bool := c = ' ' || c = '\n' || c = '\t' || c = '\r'

/-- The text without leading blanks. -/
def skipBlanks (cs : List Char) : List Char := cs.dropWhile isBlank

/-! ### Numbers -/

/-- The largest integer of the format. -/
def maxInteger : Nat := 0xFFFFFFFFFFFFFFFF

/-- The value of a decimal digit. -/
def digitValue (c : Char) : Nat := c.toNat - '0'.toNat

/-- Takes digits into the significand while it stays below `2 ^ 64`.  Gives the significand, the
number of digits taken, and the number of digits left over. -/
def takeDigits : Nat → List Char → Nat × Nat × Nat
  | significand, [] => (significand, 0, 0)
  | significand, c :: rest =>
    let next := significand * 10 + digitValue c
    if maxInteger < next then (significand, 0, rest.length + 1)
    else
      let (final, taken, left) := takeDigits next rest
      (final, taken + 1, left)

/-- A double from its parts, or a fault when it is too large. -/
def real (negative : Bool) (significand : Nat) (exponent : Int) (rest : List Char) :
    Except Failure (Number × List Char) :=
  match Binary64.ofNumeral negative significand exponent with
  | some x => .ok (.real x, rest)
  | none => .error (failure .numberTooLarge rest)

/-- The largest exponent that is looked at digit by digit. -/
def maxExponent : Nat := 0x7FFFFFFF

/-- The size of an exponent and the rest, or what follows the digit that makes it too large. -/
def exponentSize : Nat → List Char → Except (List Char) (Nat × List Char)
  | size, [] => .ok (size, [])
  | size, c :: rest =>
    if ¬ c.isDigit then .ok (size, c :: rest)
    else
      let next := size * 10 + digitValue c
      if maxExponent < next then .error rest else exponentSize next rest

/-- The exponent of a number, from its mark on.  Past the largest exponent the number is too large,
which is known before its last digit is seen, or else zero. -/
def exponentPart (negative : Bool) (significand : Nat) (exponent : Int) (cs : List Char) :
    Except Failure (Number × List Char) :=
  let afterMark := cs.tail
  let (down, afterSign) := match afterMark with
    | '+' :: rest => (false, rest)
    | '-' :: rest => (true, rest)
    | rest => (false, rest)
  match afterSign with
  | [] => .error (failure .endInValue [])
  | c :: _ =>
    if ¬ c.isDigit then .error (failure .invalidNumber afterSign)
    else match exponentSize 0 afterSign with
      | .ok (size, rest) =>
        real negative significand (if down then exponent - size else exponent + size) rest
      | .error rest =>
        if significand ≠ 0 ∧ ¬ down then .error ⟨.numberTooLarge, rest⟩
        else .ok (.real (Binary64.zero negative), rest.dropWhile Char.isDigit)

/-- Whether an exponent starts here. -/
def startsExponent : List Char → Bool
  | c :: _ => c = 'e' || c = 'E'
  | [] => false

/-- The fraction of a number, from its point on. -/
def fractionPart (negative : Bool) (significand : Nat) (exponent : Int) (cs : List Char) :
    Except Failure (Number × List Char) :=
  let digits := cs.tail.takeWhile Char.isDigit
  let rest := cs.tail.dropWhile Char.isDigit
  match digits, rest with
  | [], [] => .error (failure .endInValue [])
  | [], rest => .error (failure .invalidNumber rest)
  | digits, rest =>
    let (significand, taken, _) := takeDigits significand digits
    let exponent := exponent - taken
    if startsExponent rest then exponentPart negative significand exponent rest
    else real negative significand exponent rest

/-- A number without its minus sign.  Integers keep their form inside their range; a number with a
fraction or an exponent, one outside the range, and minus zero are doubles. -/
def number (negative : Bool) : Step Number := fun cs =>
  match cs with
  | [] => .error (failure .endInValue [])
  | c :: _ =>
    if ¬ c.isDigit then .error (failure .invalidNumber cs) else
    let digits := if c = '0' then [c] else cs.takeWhile Char.isDigit
    let rest := cs.drop digits.length
    if c = '0' && (rest.head?.any Char.isDigit) then .error (failure .invalidNumber rest) else
    let (significand, _, left) := takeDigits 0 digits
    match rest with
    | '.' :: _ => fractionPart negative significand left rest
    | _ =>
      if startsExponent rest then exponentPart negative significand left rest
      else if left ≠ 0 then real negative significand left rest
      else if ¬ negative then .ok (.integer significand, rest)
      else if significand = 0 ∨ 0x8000000000000000 < significand then real true significand 0 rest
      else .ok (.integer (-(significand : Int)), rest)

/-! ### Strings -/

/-- Four hexadecimal digits. -/
def hexUnit : Step Nat := fun cs =>
  match cs with
  | a :: b :: c :: d :: rest =>
    match Text.hexValue? a, Text.hexValue? b, Text.hexValue? c, Text.hexValue? d with
    | some a, some b, some c, some d => .ok (((a * 16 + b) * 16 + c) * 16 + d, rest)
    | _, _, _, _ => .error ⟨.invalidEscape, rest⟩
  | _ => .error ⟨.endInString, []⟩

/-- The character of a `u` escape, after the `u`.  A leading surrogate needs its trailing one. -/
def unicodeEscape : Step Char := fun cs => do
  let (unit, rest) ← hexUnit cs
  if 0xDC00 ≤ unit ∧ unit ≤ 0xDFFF then throw ⟨.loneSurrogate, rest⟩
  if unit < 0xD800 ∨ 0xDBFF < unit then return (Char.ofNat unit, rest)
  match rest with
  | [] => throw ⟨.endInString, []⟩
  | '\\' :: 'u' :: rest =>
    let (trail, rest) ← hexUnit rest
    if trail < 0xDC00 ∨ 0xDFFF < trail then throw ⟨.loneSurrogate, rest⟩
    return (Char.ofNat ((unit - 0xD800) * 0x400 + (trail - 0xDC00) + 0x10000), rest)
  | ['\\'] => throw ⟨.endInString, []⟩
  | '\\' :: _ :: rest => throw ⟨.unfinishedSurrogate, rest⟩
  | _ :: rest => throw ⟨.unfinishedSurrogate, rest⟩

/-- The character of an escape, after the backslash. -/
def escape : Step Char := fun cs =>
  match cs with
  | [] => .error ⟨.endInString, []⟩
  | '"' :: rest => .ok ('"', rest)
  | '\\' :: rest => .ok ('\\', rest)
  | '/' :: rest => .ok ('/', rest)
  | 'b' :: rest => .ok ('\x08', rest)
  | 'f' :: rest => .ok ('\x0c', rest)
  | 'n' :: rest => .ok ('\n', rest)
  | 'r' :: rest => .ok ('\r', rest)
  | 't' :: rest => .ok ('\t', rest)
  | 'u' :: rest => unicodeEscape rest
  | _ :: rest => .error ⟨.invalidEscape, rest⟩

/-- The bytes of a string after its opening quote, in reverse onto `done`.  Each step consumes a
byte, so their number is enough `fuel`. -/
def stringTail : Nat → List Char → Step String
  | 0, _, _ => .error ⟨.endInString, []⟩
  | fuel + 1, done, cs =>
    match cs with
    | [] => .error ⟨.endInString, []⟩
    | '"' :: rest => .ok (textOf done.reverse, rest)
    | '\\' :: rest => do
      let (c, rest) ← escape rest
      stringTail fuel ((bytesOf (String.singleton c)).reverse ++ done) rest
    | c :: rest =>
      if c.toNat < 0x20 then .error ⟨.controlCharacter, rest⟩
      else stringTail fuel (c :: done) rest

/-- A string after its opening quote. -/
def stringBody : Step String := fun cs => stringTail (cs.length + 1) [] cs

/-! ### Values -/

/-- The rest of a word such as `null`, after its first letter. -/
def word (letters : List Char) (value : Json) : Step Json := fun cs =>
  match letters, cs with
  | [], cs => .ok (value, cs)
  | _ :: _, [] => .error ⟨.endInValue, []⟩
  | l :: letters, c :: rest =>
    if c = l then word letters value rest else .error ⟨.expectedIdent, rest⟩

/-- The items of an array after its bracket or after an item, in reverse onto `done`. -/
def items (value : Step Json) : Nat → Bool → List Json → Step (List Json)
  | 0, _, _, _ => .error ⟨.endInArray, []⟩
  | fuel + 1, first, done, cs =>
    match skipBlanks cs with
    | [] => .error ⟨.endInArray, []⟩
    | ']' :: rest => .ok (done.reverse, rest)
    | cs =>
      if first then do
        let (item, rest) ← value cs
        items value fuel false (item :: done) rest
      else match cs with
        | ',' :: rest =>
          match skipBlanks rest with
          | [] => .error ⟨.endInValue, []⟩
          | ']' :: rest => .error ⟨.trailingComma, rest⟩
          | cs => do
            let (item, rest) ← value cs
            items value fuel false (item :: done) rest
        | cs => .error (failure .expectedItemEnd cs)

/-- An entry of an object, after the opening quote of its key. -/
def entry (value : Step Json) : Step (String × Json) := fun cs => do
  let (key, rest) ← stringBody cs
  match skipBlanks rest with
  | [] => throw ⟨.endInObject, []⟩
  | ':' :: rest =>
    let (item, rest) ← value rest
    return ((key, item), rest)
  | cs => throw (failure .expectedColon cs)

/-- The entries of an object after its brace or after an entry.  A repeated key keeps its first
place and takes the last value. -/
def entries (value : Step Json) : Nat → Bool → Dict Json → Step (Dict Json)
  | 0, _, _, _ => .error ⟨.endInObject, []⟩
  | fuel + 1, first, done, cs =>
    match skipBlanks cs with
    | [] => .error ⟨.endInObject, []⟩
    | '\x7d' :: rest => .ok (done, rest)
    | cs =>
      if first then
        match cs with
        | '"' :: rest => do
          let ((key, item), rest) ← entry value rest
          entries value fuel false (done.insert key item) rest
        | cs => .error (failure .keyNotString cs)
      else match cs with
        | ',' :: rest =>
          match skipBlanks rest with
          | [] => .error ⟨.endInValue, []⟩
          | '"' :: rest => do
            let ((key, item), rest) ← entry value rest
            entries value fuel false (done.insert key item) rest
          | '\x7d' :: rest => .error ⟨.trailingComma, rest⟩
          | cs => .error (failure .keyNotString cs)
        | cs => .error (failure .expectedEntryEnd cs)

/-- A value; `levels` more arrays and objects may be opened. -/
def value : Nat → Step Json
  | levels, cs =>
    match skipBlanks cs with
    | [] => .error ⟨.endInValue, []⟩
    | '"' :: rest => do
      let (s, rest) ← stringBody rest
      return (.string s, rest)
    | 'n' :: rest => word ['u', 'l', 'l'] .null rest
    | 't' :: rest => word ['r', 'u', 'e'] (.bool true) rest
    | 'f' :: rest => word ['a', 'l', 's', 'e'] (.bool false) rest
    | '-' :: rest => do
      let (n, rest) ← number true rest
      return (.number n, rest)
    | '[' :: rest =>
      match levels with
      | 0 => .error ⟨.nestedTooDeep, rest⟩
      | levels + 1 => do
        let (list, rest) ← items (value levels) (rest.length + 1) true [] rest
        return (.array list, rest)
    | '\x7b' :: rest =>
      match levels with
      | 0 => .error ⟨.nestedTooDeep, rest⟩
      | levels + 1 => do
        let (dict, rest) ← entries (value levels) (rest.length + 1) true [] rest
        return (.object dict, rest)
    | c :: rest =>
      if c.isDigit then do
        let (n, rest) ← number false (c :: rest)
        return (.number n, rest)
      else .error ⟨.expectedValue, rest⟩

/-- The number of levels that a value may nest. -/
def maxLevels : Nat := 127

/-- One value and nothing after it. -/
def document (cs : List Char) : Except Failure Json := do
  let (result, rest) ← value maxLevels cs
  match skipBlanks rest with
  | [] => return result
  | _ :: rest => throw ⟨.trailingText, rest⟩

/-- Line and column after the bytes `seen`. -/
def position (seen : List Char) : Nat × Nat :=
  seen.foldl
    (fun (line, column) c => if c = '\n' then (line + 1, 0) else (line, column + 1))
    (1, 0)

end Reader

/-- **Reads one JSON value** from a text that holds nothing else. -/
def read? (s : String) : Except ReadError Json :=
  let cs := Reader.bytesOf s
  match Reader.document cs with
  | .ok result => .ok result
  | .error e =>
    let (line, column) := Reader.position (cs.take (cs.length - e.unread.length))
    .error ⟨e.fault, line, column⟩

end Json
end SchemaTypings
