import SchemaTypings.Pattern.Escape

/-! # Sets in brackets

A set lists characters, ranges, classes and further sets.  Two signs together combine what stands
before them with what follows: `&&`, `--` and `~~`, from left to right.  A hyphen or a closing
bracket right after the opening one stands for itself, so no set is written without items.
-/
namespace SchemaTypings
namespace Pattern

/-- The ASCII class of a name. -/
def AsciiClass.ofName? : String → Option AsciiClass
  | "alnum" => some .alnum
  | "alpha" => some .alpha
  | "ascii" => some .ascii
  | "blank" => some .blank
  | "cntrl" => some .cntrl
  | "digit" => some .digit
  | "graph" => some .graph
  | "lower" => some .lower
  | "print" => some .print
  | "punct" => some .punct
  | "space" => some .space
  | "upper" => some .upper
  | "word" => some .word
  | "xdigit" => some .xdigit
  | _ => none

/-- Reads a named ASCII class behind its opening bracket.  Anything else there opens a set. -/
def asciiClass? : List Char → Option (SetItem × List Char)
  | ':' :: rest =>
    let (negated, rest) := match rest with
      | '^' :: rest => (true, rest)
      | rest => (false, rest)
    match rest.span (· ≠ ':') with
    | (name, ':' :: ']' :: after) => do
      let kind ← AsciiClass.ofName? (String.ofList name)
      return (.ascii kind negated, after)
    | _ => none
  | _ => none

/-- Reads one part of a set. -/
def setAtom? (verbose : Bool) : List Char → Option (Atom × List Char)
  | [] => none
  | '\\' :: rest => escape? verbose rest
  | c :: rest => some (.literal { char := c }, rest)

/-- A part as an item; a set has no conditions on places. -/
def SetItem.ofAtom? : Atom → Option SetItem
  | .look _ | .dot => none
  | a => some (.atom a)

/-- A range of characters; its ends are characters in order. -/
def SetItem.ofEnds? : Atom → Atom → Option SetItem
  | .literal first, .literal last =>
    if first.char ≤ last.char then some (.range first last) else none
  | _, _ => none

/-- Reads an item that is no set of its own: a part, or a range between two.  A hyphen before a
closing bracket or before another hyphen makes no range. -/
def setItem? (verbose : Bool) (cs : List Char) : Option (SetItem × List Char) := do
  let (first, rest) ← setAtom? verbose cs
  match skip verbose rest with
  | [] => none
  | c :: rest =>
    let next := peek? verbose (c :: rest)
    if c ≠ '-' ∨ next = some ']' ∨ next = some '-' then
      return (← SetItem.ofAtom? first, c :: rest)
    else
      let (last, rest) ← setAtom? verbose (skip verbose rest)
      return (← SetItem.ofEnds? first last, rest)

/-- Hyphens at the start of a set, and the text behind them. -/
def leadingHyphens (verbose : Bool) (cs : List Char) : List SetItem × List Char :=
  let (hyphens, rest) := span verbose (· = '-') cs
  (hyphens.map fun c => .atom (.literal { char := c }), rest)

/-- What stands at the start of a set behind its bracket: whether the set is negated, its first
items, and the text behind them. -/
def setStart (verbose : Bool) (cs : List Char) : Bool × List SetItem × List Char :=
  let (negated, rest) := match skip verbose cs with
    | '^' :: rest => (true, rest)
    | rest => (false, rest)
  match leadingHyphens verbose rest with
  | ([], ']' :: rest) => (negated, [.atom (.literal { char := ']' })], rest)
  | (items, rest) => (negated, items, rest)

/-- Items that have been read, combined with what stands before them. -/
def combine (before : Option (SetOperation × BracketSet)) (items : List SetItem) : BracketSet :=
  match before with
  | some (op, left) => .combined op left (.union items.reverse)
  | none => .union items.reverse

/-- The operation that two signs together stand for. -/
def SetOperation.ofSigns? : List Char → Option SetOperation
  | '&' :: '&' :: _ => some .intersection
  | '-' :: '-' :: _ => some .difference
  | '~' :: '~' :: _ => some .symmetricDifference
  | _ => none

/-- Reads a set up to its closing bracket, `fuel` bounding its items.  `before` is what is to be
combined with the items, of which the last one read comes first. -/
def setRest? (verbose : Bool) : Nat → Option (SetOperation × BracketSet) → List SetItem →
    List Char → Option (BracketSet × List Char)
  | 0, _, _, _ => none
  | fuel + 1, before, items, cs =>
    match skip verbose cs with
    | [] => none
    | ']' :: rest => some (combine before items, rest)
    | '[' :: rest =>
      match asciiClass? rest with
      | some (item, rest) => setRest? verbose fuel before (item :: items) rest
      | none => do
        let (negated, start, rest) := setStart verbose rest
        let (set, rest) ← setRest? verbose fuel none start.reverse rest
        setRest? verbose fuel before (.nested negated set :: items) rest
    | cs =>
      match SetOperation.ofSigns? cs with
      | some op => setRest? verbose fuel (some (op, combine before items)) [] (cs.drop 2)
      | none => do
        let (item, rest) ← setItem? verbose cs
        setRest? verbose fuel before (item :: items) rest

/-- **Reads a set in brackets**, of which the opening one is read. -/
def brackets? (verbose : Bool) (cs : List Char) : Option (Tree × List Char) := do
  let (negated, start, rest) := setStart verbose cs
  let (set, rest) ← setRest? verbose (rest.length + 1) none start.reverse rest
  return (.brackets negated set, rest)

end Pattern
end SchemaTypings
