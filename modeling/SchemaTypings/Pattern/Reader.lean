import SchemaTypings.Pattern.Brackets
import SchemaTypings.Pattern.Group

/-! # Reading patterns

Alternatives of parts, each with the repetitions behind it.  Repetition applies to the part right
before it, which must be there and must not be a change of flags.
-/
namespace SchemaTypings
namespace Pattern

/-- Reads bounds in braces, of which the opening one is read.  The lower bound is never left out,
and is at most the upper one. -/
def bounds? (verbose : Bool) (cs : List Char) : Option (Bounds × List Char) := do
  let (least?, rest) ← count? verbose (skip verbose cs)
  let least ← least?
  match rest with
  | '}' :: rest => return (⟨least, some least⟩, rest)
  | ',' :: rest =>
    match skip verbose rest with
    | '}' :: rest => return (⟨least, none⟩, rest)
    | rest =>
      let (most?, rest) ← count? verbose rest
      let most ← most?
      guard (least ≤ most)
      match rest with
      | '}' :: rest => return (⟨least, some most⟩, rest)
      | _ => none
  | _ => none

/-- A repetition, as it stands behind a part. -/
structure Repeat where
  bounds : Bounds
  greedy : Bool
  deriving DecidableEq, Repr

/-- Bounds with the sign that makes a repetition lazy, where it follows. -/
def Bounds.withGreed (bounds : Bounds) : List Char → Repeat × List Char
  | '?' :: rest => (⟨bounds, false⟩, rest)
  | cs => (⟨bounds, true⟩, cs)

/-- Reads a repetition, if the text starts with one.  The outer option tells whether there is one,
the inner one whether it is well formed. -/
def repetition? (verbose : Bool) : List Char → Option (Option (Repeat × List Char))
  | '?' :: rest => some (some (Bounds.withGreed ⟨0, some 1⟩ rest))
  | '*' :: rest => some (some (Bounds.withGreed ⟨0, none⟩ rest))
  | '+' :: rest => some (some (Bounds.withGreed ⟨1, none⟩ rest))
  | '{' :: rest =>
    some ((bounds? verbose rest).map fun (bounds, rest) => bounds.withGreed (skip verbose rest))
  | _ => none

/-- A part with a repetition behind it. -/
def Tree.repeated? (r : Repeat) : Tree → Option Tree
  | .empty | .flags _ => none
  | body => some (.repetition r.bounds r.greedy body)

/-- Reads a part that is neither a group nor a repetition. -/
def part? (verbose : Bool) : List Char → Option (Tree × List Char)
  | [] => none
  | '\\' :: rest => (escape? verbose rest).map fun (a, rest) => (.atom a, rest)
  | '[' :: rest => brackets? verbose rest
  | '.' :: rest => some (.atom .dot, rest)
  | '^' :: rest => some (.atom (.look .lineStart), rest)
  | '$' :: rest => some (.atom (.look .lineEnd), rest)
  | c :: rest => some (.atom (.literal { char := c }), rest)

/-- What has been read of a group so far, the latest first. -/
structure Progress where
  branches : List Tree := []
  parts : List Tree := []

namespace Progress

/-- Everything read, as a tree. -/
def tree (p : Progress) : Tree := .ofBranches (.ofParts p.parts.reverse :: p.branches).reverse

/-- One more part. -/
def push (p : Progress) (part : Tree) : Progress := { p with parts := part :: p.parts }

/-- The start of another alternative. -/
def nextBranch (p : Progress) : Progress := { branches := .ofParts p.parts.reverse :: p.branches }

/-- Puts a repetition on the latest part. -/
def repeatLast? (p : Progress) (r : Repeat) : Option Progress :=
  match p.parts with
  | [] => none
  | last :: parts => (last.repeated? r).map fun last => { p with parts := last :: parts }

end Progress

/-- Reads up to the end of a group or of the text, `fuel` bounding the parts.  `names` are the names
of the groups so far; they come back with those that were added. -/
def readGroup? : Nat → Bool → List String → Progress → List Char →
    Option (Tree × List String × List Char)
  | 0, _, _, _, _ => none
  | fuel + 1, verbose, names, progress, cs =>
    match skip verbose cs with
    | [] => some (progress.tree, names, [])
    | ')' :: rest => some (progress.tree, names, ')' :: rest)
    | '|' :: rest => readGroup? fuel verbose names progress.nextBranch rest
    | '(' :: rest => do
      match ← opening? verbose rest with
      | (.change change, rest) =>
        let verbose := change.apply .verbose verbose
        readGroup? fuel verbose names (progress.push (.flags change)) rest
      | (.group captures name change, rest) =>
        guard !(name.any names.contains)
        let inside := change.apply .verbose verbose
        match ← readGroup? fuel inside (name.toList ++ names) {} rest with
        | (body, names, _ :: rest) =>
          readGroup? fuel verbose names (progress.push (.group captures change body)) rest
        | (_, _, []) => none
    | cs =>
      match repetition? verbose cs with
      | some repetition => do
        let (r, rest) ← repetition
        readGroup? fuel verbose names (← progress.repeatLast? r) rest
      | none => do
        let (part, rest) ← part? verbose cs
        readGroup? fuel verbose names (progress.push part) rest

/-- **The tree that a text writes**, if it is a pattern. -/
def Tree.read? (cs : List Char) : Option Tree :=
  match readGroup? (cs.length + 1) false [] {} cs with
  | some (tree, _, []) => some tree
  | _ => none

end Pattern
end SchemaTypings
