/-! # The room that automata take

A pattern is matched by an automaton, and one that would take too much room is refused.  The
automaton is not built: its states are counted in the order in which they would be made, together
with the room that some of them take beyond that of a plain state.  Counting ends as soon as there
is too much.
-/
namespace SchemaTypings
namespace Pattern

/-- The room of an automaton so far. -/
structure Footprint where
  /-- The number of states, which is the number that the next one gets. -/
  states : Nat := 0
  /-- The bytes that states take beyond those of a plain one. -/
  extra : Nat := 0
  deriving DecidableEq, Repr

namespace Footprint

/-- Bytes that a plain state takes. -/
def stateSize : Nat := 32

/-- Bytes for a way out of a state by a range of bytes. -/
def edgeSize : Nat := 8

/-- Bytes for a way out of a state that chooses between several. -/
def choiceSize : Nat := 4

/-- Bytes that an automaton may take: ten mebibytes. -/
def most : Nat := 10 * 1024 * 1024

/-- The bytes of an automaton. -/
def size (f : Footprint) : Nat := stateSize * f.states + f.extra

end Footprint

/-- A count of states, which fails when they take too much room. -/
abbrev Count := StateT Footprint Option

namespace Count

/-- Makes states, with room beyond that of plain ones. -/
def make (states : Nat) (extra : Nat := 0) : Count Unit := fun f =>
  let f : Footprint := ⟨f.states + states, f.extra + extra⟩
  if f.size ≤ Footprint.most then some ((), f) else none

/-- The number of the next state. -/
def next : Count Nat := fun f => some (f.states, f)

/-- Leads on from a state.  Only one that chooses between several ways takes room for it. -/
def link (chooses : Bool) : Count Unit :=
  if chooses then make 0 Footprint.choiceSize else pure ()

/-- Counts `body` several times, each leading to the next; nothing at all takes a state. -/
def times (body : Count Bool) : Nat → Count Bool
  | 0 => fun f => (do make 1; return false : Count Bool) f
  | 1 => body
  | n + 2 => fun f =>
    match (do link (← body) : Count Unit) f with
    | none => none
    | some (_, f) => times body (n + 1) f

/-- Counts `body` up to `n` times behind `before`, each time after a choice to leave. -/
def optional (body : Count Bool) : Nat → Bool → Count Bool
  | 0, before => fun f => some (before, f)
  | n + 1, before => fun f =>
    match (do make 1; link before; make 0 (2 * Footprint.choiceSize); body : Count Bool) f with
    | none => none
    | some (stop, f) => optional body n stop f

/-- What is counted takes no more than there may be. -/
theorem size_le_of_make {states extra : Nat} {f g : Footprint} {u : Unit}
    (h : make states extra f = some (u, g)) : g.size ≤ Footprint.most := by
  unfold make at h
  grind

end Count

end Pattern
end SchemaTypings
