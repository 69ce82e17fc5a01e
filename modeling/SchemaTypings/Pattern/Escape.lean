import SchemaTypings.Pattern.Scan
import SchemaTypings.Pattern.Tree

/-! # Escapes

What may follow a backslash: a character written by its number, a property, a class with a letter
of its own, a character that would otherwise mean something, a control character, or a condition on
a place.  There are no references back to groups, and letters without a meaning are refused.
-/
namespace SchemaTypings
namespace Pattern

open Text (hexValue? ofHex?)

/-- The character with a number, if there is one. -/
def charOfNumber? (n : Nat) : Option Char :=
  if n.isValidChar then some (Char.ofNat n) else none

/-- Reads `count` hexadecimal digits. -/
def hexDigits? (verbose : Bool) : Nat → Nat → List Char → Option (Nat × List Char)
  | 0, value, cs => some (value, cs)
  | _ + 1, _, [] => none
  | count + 1, value, c :: rest => do
    hexDigits? verbose count (value * 16 + (← hexValue? c)) (skip verbose rest)

/-- Reads the text in braces, of which the opening one is read. -/
def braced? (verbose : Bool) (cs : List Char) : Option (List Char × List Char) :=
  match span verbose (· ≠ '}') cs with
  | (taken, '}' :: rest) => some (taken, rest)
  | _ => none

/-- Reads a character by its number: in braces, or with `count` digits. -/
def numbered? (verbose : Bool) (count : Nat) (cs : List Char) : Option (Atom × List Char) :=
  match skip verbose cs with
  | '{' :: rest => do
    let (digits, rest) ← braced? verbose rest
    guard !digits.isEmpty
    let char ← charOfNumber? (← ofHex? digits)
    return (.literal { char }, skip verbose rest)
  | cs => do
    let (value, rest) ← hexDigits? verbose count 0 cs
    let char ← charOfNumber? value
    return (.literal { char, isByte := count = 2 }, rest)

/-- Where `separator` first occurs, the texts before and behind it. -/
def splitAt? (separator : List Char) : List Char → Option (List Char × List Char)
  | [] => none
  | c :: rest =>
    if separator.isPrefixOf (c :: rest) then some ([], (c :: rest).drop separator.length)
    else (splitAt? separator rest).map fun (before, behind) => (c :: before, behind)

/-- The property that a text in braces asks for. -/
def Property.ofText (text : List Char) : Property :=
  match splitAt? ['!', '='] text <|> splitAt? [':'] text <|> splitAt? ['='] text with
  | some (name, value) => .valued name value
  | none => .named text

/-- Reads the name of a property: in braces, or a single letter. -/
def property? (verbose negated : Bool) (cs : List Char) : Option (Atom × List Char) :=
  match skip verbose cs with
  | [] | '\\' :: _ => none
  | '{' :: rest => do
    let (text, rest) ← braced? verbose rest
    return (.property (.ofText text) negated, rest)
  | c :: rest => some (.property (.named [c]) negated, skip verbose rest)

/-- The word boundary of a name. -/
def Boundary.ofName? : String → Option Boundary
  | "start" => some .start
  | "end" => some .stop
  | "start-half" => some .startHalf
  | "end-half" => some .stopHalf
  | _ => none

/-- Whether a character may stand in the name of a special word boundary. -/
def isBoundaryChar (c : Char) : Bool := c.isAlpha || c = '-'

/-- Reads what follows `\b`.  Braces around a name make it a special boundary; braces around
anything else are read later, as a repetition. -/
def wordBoundary? (verbose : Bool) : List Char → Option (Boundary × List Char)
  | '{' :: rest =>
    match skip verbose rest with
    | [] => none
    | c :: _ =>
      if isBoundaryChar c then
        match span verbose isBoundaryChar rest with
        | (name, '}' :: after) => return (← Boundary.ofName? (String.ofList name), after)
        | _ => none
      else some (.edge, '{' :: rest)
  | cs => some (.edge, cs)

/-- Whether an escaped character stands for itself: every ASCII character that is neither letter nor
digit, save the signs that mark the edges of a word. -/
def isSelfEscaped (c : Char) : Bool :=
  c.toNat < 0x80 && !c.isAlphanum && c != '<' && c != '>'

/-- The control characters with a letter of their own. -/
def controls : List (Char × Char) :=
  [('a', '\x07'), ('f', '\x0C'), ('t', '\t'), ('n', '\n'), ('r', '\r'), ('v', '\x0B')]

/-- **Reads an escape**, of which the backslash is read. -/
def escape? (verbose : Bool) : List Char → Option (Atom × List Char)
  | [] => none
  | 'x' :: rest => numbered? verbose 2 rest
  | 'u' :: rest => numbered? verbose 4 rest
  | 'U' :: rest => numbered? verbose 8 rest
  | 'p' :: rest => property? verbose false rest
  | 'P' :: rest => property? verbose true rest
  | 'd' :: rest => some (.shorthand .digit false, rest)
  | 'D' :: rest => some (.shorthand .digit true, rest)
  | 's' :: rest => some (.shorthand .space false, rest)
  | 'S' :: rest => some (.shorthand .space true, rest)
  | 'w' :: rest => some (.shorthand .word false, rest)
  | 'W' :: rest => some (.shorthand .word true, rest)
  | 'b' :: rest => (wordBoundary? verbose rest).map fun (b, rest) => (.look (.boundary b), rest)
  | 'B' :: rest => some (.look (.boundary .noEdge), rest)
  | '<' :: rest => some (.look (.boundary .start), rest)
  | '>' :: rest => some (.look (.boundary .stop), rest)
  | 'A' :: rest => some (.look .textStart, rest)
  | 'z' :: rest => some (.look .textEnd, rest)
  | c :: rest =>
    if isSelfEscaped c then some (.literal { char := c }, rest)
    else (controls.lookup c).map fun char => (.literal { char }, rest)

/-- A digit never follows a backslash: there are no references to groups. -/
theorem escape?_digit (verbose : Bool) {c : Char} (hc : c ∈ "0123456789".toList)
    (rest : List Char) : escape? verbose (c :: rest) = none := by
  revert hc
  simp only [String.reduceToList, List.mem_cons, List.not_mem_nil, or_false]
  rintro (h | h | h | h | h | h | h | h | h | h) <;> subst h <;> rfl

end Pattern
end SchemaTypings
