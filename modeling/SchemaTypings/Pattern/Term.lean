import SchemaTypings.Pattern.Tree
import SchemaTypings.Text.RangeSet

/-! # Terms

What a pattern matches, in as few parts as possible: flags are resolved, classes are sets, literals
that stand together are one literal, and what could be left out is left out.  Terms are built by
functions that keep them so: `ofSet`, `repeated`, `sequence` and `choice`.
-/
namespace SchemaTypings
namespace Pattern

open Text (Ranges)

/-- What a set is a set of. -/
inductive Alphabet where
  | characters
  | bytes
  deriving DecidableEq, Repr

/-- A condition on a place, with the flags resolved. -/
inductive Place where
  | textStart
  | textEnd
  | lineStart (crlf : Bool)
  | lineEnd (crlf : Bool)
  | boundary (unicode : Bool) (b : Boundary)
  deriving DecidableEq, Repr

/-- **What a pattern matches.** -/
inductive Term where
  | empty
  | literal (chars : List Char)
  | set (alphabet : Alphabet) (ranges : Ranges)
  | place (p : Place)
  | repetition (bounds : Bounds) (greedy : Bool) (body : Term)
  | capture (index : Nat) (body : Term)
  | concat (parts : List Term)
  | alternation (branches : List Term)

namespace Term

/-- What nothing matches. -/
def nothing : Term := set .bytes []

/-! ### Lengths -/

mutual

/-- A lower bound of the length of what a term matches, which is zero only if the empty text is
matched; none if some part of the term matches nothing. -/
def shortest : Term → Option Nat
  | empty | place _ => some 0
  | literal chars => some chars.length
  | set _ ranges => if ranges.isEmpty then none else some 1
  | repetition bounds _ body => body.shortest.map (· * bounds.least)
  | capture _ body => body.shortest
  | concat parts => shortestTogether parts
  | alternation branches => shortestAmong branches

/-- The lower bound for several terms, one after the other. -/
def shortestTogether : List Term → Option Nat
  | [] => some 0
  | part :: rest => do return (← part.shortest) + (← shortestTogether rest)

/-- The lower bound for one of several terms. -/
def shortestAmong : List Term → Option Nat
  | [] => none
  | [branch] => branch.shortest
  | branch :: rest => do return min (← branch.shortest) (← shortestAmong rest)

end

mutual

/-- Whether a term is made to match the empty text only. -/
def isWidthless : Term → Bool
  | empty | place _ => true
  | literal _ | set _ _ => false
  | repetition _ _ body | capture _ body => body.isWidthless
  | concat parts | alternation parts => areWidthless parts

/-- Whether several terms are made to match the empty text only. -/
def areWidthless : List Term → Bool
  | [] => true
  | part :: rest => part.isWidthless && areWidthless rest

end

/-! ### Anchors -/

mutual

/-- Whether a term matches at the start of the text only. -/
def isStartAnchored : Term → Bool
  | place p => p = .textStart
  | empty | literal _ | set _ _ => false
  | repetition bounds _ body => 0 < bounds.least && body.isStartAnchored
  | capture _ body => body.isStartAnchored
  | concat parts => someStartAnchored parts
  | alternation branches => allStartAnchored branches

/-- Whether a part that stands before all that takes room matches at the start only. -/
def someStartAnchored : List Term → Bool
  | [] => false
  | part :: rest => part.isStartAnchored || (part.isWidthless && someStartAnchored rest)

/-- Whether every branch matches at the start only. -/
def allStartAnchored : List Term → Bool
  | [] => true
  | branch :: rest => branch.isStartAnchored && allStartAnchored rest

end

mutual

/-- Whether a term matches at the end of the text only. -/
def isEndAnchored : Term → Bool
  | place p => p = .textEnd
  | empty | literal _ | set _ _ => false
  | repetition bounds _ body => 0 < bounds.least && body.isEndAnchored
  | capture _ body => body.isEndAnchored
  | concat parts => someEndAnchored parts
  | alternation branches => allEndAnchored branches

/-- Whether a part behind all that takes room matches at the end only. -/
def someEndAnchored : List Term → Bool
  | [] => false
  | part :: rest => someEndAnchored rest || (areWidthless rest && part.isEndAnchored)

/-- Whether every branch matches at the end only. -/
def allEndAnchored : List Term → Bool
  | [] => true
  | branch :: rest => branch.isEndAnchored && allEndAnchored rest

end

/-! ### Building -/

mutual

/-- Whether two terms are the same. -/
def same : Term → Term → Bool
  | empty, empty => true
  | literal a, literal b => a = b
  | set α a, set β b => α = β && a = b
  | place p, place q => p = q
  | repetition b g t, repetition c h u => b = c && g = h && t.same u
  | capture m t, capture n u => m = n && t.same u
  | concat ts, concat us | alternation ts, alternation us => allSame ts us
  | _, _ => false

/-- Whether two lists hold the same terms. -/
def allSame : List Term → List Term → Bool
  | [], [] => true
  | t :: ts, u :: us => t.same u && allSame ts us
  | _, _ => false

end

mutual

/-- How many terms a term is made of. -/
def weight : Term → Nat
  | empty | literal _ | set _ _ | place _ => 1
  | repetition _ _ body | capture _ body => body.weight + 1
  | concat parts | alternation parts => totalWeight parts + 1

/-- How many terms several terms are made of. -/
def totalWeight : List Term → Nat
  | [] => 0
  | part :: rest => part.weight + totalWeight rest

end

/-- A set as a term; what has a single member is a literal. -/
def ofSet (alphabet : Alphabet) : Ranges → Term
  | [] => nothing
  | [(first, last)] =>
    if first = last then literal [Char.ofNat first] else set alphabet [(first, last)]
  | ranges => set alphabet ranges

/-- A term several times.  What takes no room is taken once at most. -/
def repeated (bounds : Bounds) (greedy : Bool) (body : Term) : Term :=
  let bounds : Bounds :=
    if body.isWidthless then ⟨min bounds.least 1, some (min (bounds.most.getD 1) 1)⟩ else bounds
  if bounds = ⟨0, some 0⟩ then empty
  else if bounds = ⟨1, some 1⟩ then body
  else repetition bounds greedy body

/-- Joins literals that stand together. -/
def joinLiterals : List Term → List Term
  | [] => []
  | part :: rest =>
    match part, joinLiterals rest with
    | literal a, literal b :: rest => literal (a ++ b) :: rest
    | part, rest => part :: rest

/-- The parts of a term. -/
def parts : Term → List Term
  | empty => []
  | concat parts => parts
  | part => [part]

/-- **Terms one after the other.** -/
def sequence (terms : List Term) : Term :=
  match joinLiterals (terms.flatMap parts) with
  | [] => empty
  | [part] => part
  | parts => concat parts

/-- The branches of a term. -/
def branches : Term → List Term
  | alternation branches => branches
  | branch => [branch]

/-- The character that is all a term matches. -/
def single? : Term → Option Char
  | literal [c] => some c
  | _ => none

/-- The set that a term is. -/
def ranges? : Term → Option Ranges
  | set _ ranges => some ranges
  | _ => none

/-- The parts of a term that has several. -/
def severalParts? : Term → Option (List Term)
  | concat parts => some parts
  | _ => none

/-- What two lists of terms start with. -/
def commonStart : List Term → List Term → List Term
  | t :: ts, u :: us => if t.same u then t :: commonStart ts us else []
  | _, _ => []

/-- Branches that start alike: what they start with, and how each goes on. -/
def lifted? (branches : List Term) : Option (List Term × List Term) := do
  let all ← branches.mapM severalParts?
  let start := match all with
    | [] => []
    | first :: rest => rest.foldl commonStart first
  guard !start.isEmpty
  return (start, all.map fun parts => sequence (parts.drop start.length))

/-- One of several terms, `fuel` bounding how often something common is lifted out. -/
def choiceWithin : Nat → List Term → Term
  | 0, terms => alternation terms
  | fuel + 1, terms =>
    match terms.flatMap branches with
    | [] => nothing
    | [branch] => branch
    | all =>
      match all.mapM single?, all.mapM ranges?, lifted? all with
      | some chars, _, _ =>
        ofSet .characters (Ranges.ordered (chars.map fun c => (c.toNat, c.toNat)))
      | none, some sets, _ => ofSet .characters (Ranges.ordered sets.flatten)
      | none, none, some (start, rest) => sequence (start ++ [choiceWithin fuel rest])
      | none, none, none => alternation all

/-- **One of several terms.**  Characters and sets become one set, and what all branches start with
stands before them. -/
def choice (terms : List Term) : Term := choiceWithin (totalWeight terms + 1) terms

/-- What is taken no times is empty. -/
theorem repeated_zero (greedy : Bool) (body : Term) :
    repeated ⟨0, some 0⟩ greedy body = empty := by
  simp [repeated]

/-- A sequence of nothing is empty. -/
theorem sequence_nil : sequence [] = empty := rfl

/-- A choice between nothing matches nothing. -/
theorem choice_nil : choice [] = nothing := rfl

end Term

end Pattern
end SchemaTypings
