import SchemaTypings.Decimal.Int64
import SchemaTypings.Text.Blank
import SchemaTypings.Text.Hexadecimal

/-! # Walking over a pattern

In verbose mode blanks and comments, from `#` to the end of the line, separate the characters of a
pattern and mean nothing.  `span` takes characters off the front and passes over what separates
them.
-/
namespace SchemaTypings
namespace Pattern

open Decimal (ofDigits)
open Text (isBlank)

/-- Takes the characters of which `p` holds, up to the first other one.  `inComment` tells whether
the text starts inside a comment. -/
def spanFrom (verbose : Bool) (p : Char → Bool) : Bool → List Char → List Char × List Char
  | _, [] => ([], [])
  | true, c :: rest => spanFrom verbose p (c != '\n') rest
  | false, c :: rest =>
    if verbose && isBlank c then spanFrom verbose p false rest
    else if verbose && c = '#' then spanFrom verbose p true rest
    else if p c then
      let (taken, after) := spanFrom verbose p false rest
      (c :: taken, after)
    else ([], c :: rest)

/-- The longest run of characters of which `p` holds, and the text behind it. -/
def span (verbose : Bool) (p : Char → Bool) (cs : List Char) : List Char × List Char :=
  spanFrom verbose p false cs

/-- The text from the first character that means something. -/
def skip (verbose : Bool) (cs : List Char) : List Char := (span verbose (fun _ => false) cs).2

/-- Without verbose mode nothing is passed over. -/
theorem skip_false (cs : List Char) : skip false cs = cs := by
  cases cs <;> simp [skip, span, spanFrom]

/-- Nothing grows by taking from it. -/
theorem length_spanFrom (verbose : Bool) (p : Char → Bool) (inComment : Bool) (cs : List Char) :
    (spanFrom verbose p inComment cs).2.length ≤ cs.length := by
  fun_induction spanFrom verbose p inComment cs <;> grind

/-- What follows the character at the front, as a set in brackets sees it.  A comment is looked
into, and where only blanks follow the first of them counts. -/
def peek? (verbose : Bool) (cs : List Char) : Option Char :=
  if verbose then
    let ahead := cs.tail.dropWhile isBlank
    let ahead := if ahead.head? = some '#' then ahead.tail.dropWhile isBlank else ahead
    ahead.head? <|> cs.tail.head?
  else cs.tail.head?

/-- A count of repetitions, which fits into 32 bits, with blanks around it.  There may be no
digits at all, but a count that is too large is refused. -/
def count? (verbose : Bool) (cs : List Char) : Option (Option Nat × List Char) :=
  let (digits, rest) := span verbose Char.isDigit (cs.dropWhile isBlank)
  let rest := rest.dropWhile isBlank
  if digits.isEmpty then some (none, rest)
  else if ofDigits digits ≤ 0xFFFFFFFF then some (some (ofDigits digits), rest)
  else none

end Pattern
end SchemaTypings
