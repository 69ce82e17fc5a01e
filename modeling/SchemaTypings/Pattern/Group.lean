import SchemaTypings.Pattern.Scan
import SchemaTypings.Pattern.Tree
import SchemaTypings.Text.Alphabetic

/-! # Openings of groups

What follows an opening parenthesis: a name, a change of flags, or nothing.  A change of flags may
close at once and then holds up to the end of the group around it.  Conditions on the text before or
behind a place are not supported.
-/
namespace SchemaTypings
namespace Pattern

/-- What an opening parenthesis begins. -/
inductive Opening where
  /-- A change of flags, closed at once. -/
  | change (c : FlagChange)
  /-- A group, with its name if it has one. -/
  | group (captures : Bool) (name : Option String) (c : FlagChange)
  deriving DecidableEq, Repr

/-- The flag of a letter. -/
def Flag.ofLetter? : Char → Option Flag
  | 'i' => some .ignoreCase
  | 'm' => some .multiLine
  | 's' => some .dotMatchesNewline
  | 'U' => some .swapGreed
  | 'u' => some .unicode
  | 'R' => some .crlf
  | 'x' => some .verbose
  | _ => none

/-- Reads letters of flags that have not been read yet. -/
def flagLetters? (seen : List Flag) : List Char → Option (List Flag)
  | [] => some []
  | c :: rest => do
    let flag ← Flag.ofLetter? c
    guard !seen.contains flag
    return flag :: (← flagLetters? (flag :: seen) rest)

/-- A change of flags.  What stands behind a hyphen is switched off, and something must stand
there; no flag occurs twice. -/
def FlagChange.ofText? (text : List Char) : Option FlagChange := do
  match text.span (· ≠ '-') with
  | (on, []) => return { on := ← flagLetters? [] on }
  | (on, _ :: off) =>
    let on ← flagLetters? [] on
    guard !off.isEmpty
    return { on, off := ← flagLetters? on off }

/-- Whether a character may stand in the name of a group, or begin it. -/
def isNameChar (first : Bool) (c : Char) : Bool :=
  c = '_' || if first then Text.isAlphabetic c
    else c = '.' || c = '[' || c = ']' || Text.isAlphanumeric c

/-- Whether a text names a group. -/
def isGroupName : List Char → Bool
  | [] => false
  | c :: rest => isNameChar true c && rest.all (isNameChar false)

/-- Reads the name of a group up to its closing sign. -/
def groupName? (cs : List Char) : Option (String × List Char) :=
  match cs.span (· ≠ '>') with
  | (name, _ :: rest) => if isGroupName name then some (String.ofList name, rest) else none
  | (_, []) => none

/-- Reads a change of flags, which ends in a colon where a group follows.  A change that changes
nothing needs a group. -/
def flagChange? (cs : List Char) : Option (Opening × List Char) := do
  let (text, rest) := cs.span fun c => c ≠ ':' && c ≠ ')'
  let change ← FlagChange.ofText? text
  match rest with
  | ':' :: rest => return (.group false none change, rest)
  | _ :: rest => if text.isEmpty then none else return (.change change, rest)
  | [] => none

/-- **Reads what an opening parenthesis begins.** -/
def opening? (verbose : Bool) (cs : List Char) : Option (Opening × List Char) :=
  let named (rest : List Char) : Option (Opening × List Char) :=
    (groupName? rest).map fun (name, rest) => (.group true (some name) {}, rest)
  match skip verbose cs with
  | '?' :: '=' :: _ | '?' :: '!' :: _ | '?' :: '<' :: '=' :: _ | '?' :: '<' :: '!' :: _ => none
  | '?' :: 'P' :: '<' :: rest | '?' :: '<' :: rest => named rest
  | '?' :: rest => flagChange? rest
  | rest => some (.group true none {}, rest)

end Pattern
end SchemaTypings
