import SchemaTypings.Pattern.Footprint
import SchemaTypings.Pattern.Term
import SchemaTypings.Text.ByteRanges
import Std.Data.HashMap

/-! # Automata of terms

The states of the automaton that matches a term, as far as they count.  There are two automata: one
reads forward and notes where groups start and end, the other one reads backward.  Each `count` says
whether the automaton ends in a state that chooses, which leads on at a cost.
-/
namespace SchemaTypings
namespace Pattern

open Text (Ranges ByteRange ByteSequence)

/-- The way in which an automaton reads. -/
inductive Direction where
  | forward
  | backward
  deriving DecidableEq, Repr

/-! ### Sets -/

/-- What a state does: the ranges of bytes that lead on, and the states that they lead to. -/
abbrev Edges := List (ByteRange × Nat)

/-- States that were made before, at the places that their edges fall on.  A later state takes the
place of an earlier one. -/
abbrev Memory := Std.HashMap Nat (Edges × Nat)

/-- Mixes a number into a place. -/
def mix (place : UInt64) (n : Nat) : UInt64 := (place ^^^ UInt64.ofNat n) * 1099511628211

/-- The place of edges among `size` places. -/
def placeOf (size : Nat) (edges : Edges) : Nat :=
  let place := edges.foldl (fun place edge => mix (mix (mix place edge.1.1) edge.1.2) edge.2)
    14695981039346656037
  place.toNat % size

/-- The place of a single edge, the state before the bytes. -/
def placeOfEdge (size : Nat) (edge : ByteRange × Nat) : Nat :=
  (mix (mix (mix 14695981039346656037 edge.2) edge.1.1) edge.1.2).toNat % size

/-- The state with the given edges at a place: the one that was made before, or a new one. -/
def remembered (place extra : Nat) (edges : Edges) (memory : Memory) : Count (Nat × Memory) := do
  match memory[place]? with
  | some (known, state) => if known = edges then return (state, memory)
  | none => pure ()
  let state ← Count.next
  Count.make 1 extra
  return (state, memory.insert place (edges, state))

/-- Sequences that start alike, next to each other, by what they start with. -/
def byStart : List ByteSequence → List (ByteRange × List ByteSequence)
  | [] => []
  | [] :: rest => byStart rest
  | (range :: more) :: rest =>
    match byStart rest with
    | (start, group) :: groups =>
      if start = range then (start, (more :: group)) :: groups
      else (range, [more]) :: (start, group) :: groups
    | [] => [(range, [more])]

/-- The state that sequences of up to `length` bytes start from, and the states behind it, which
lead to `stop`.  States with the same edges are made once, as far as they are remembered. -/
def forwardNode (stop : Nat) : Nat → List ByteSequence → Memory → Count (Nat × Memory)
  | 0, _, memory => return (stop, memory)
  | length + 1, sequences, memory => do
    if sequences.all List.isEmpty then return (stop, memory)
    let (edges, memory) ← (byStart sequences).foldlM
      (fun (edges, memory) (range, group) => do
        let (state, memory) ← forwardNode stop length group memory
        return ((range, state) :: edges, memory))
      (([] : Edges), memory)
    let edges := edges.reverse
    remembered (placeOf 10000 edges) (Footprint.edgeSize * edges.length) edges memory

/-- The states of a sequence, the last byte of which is read first. -/
def backwardChain : ByteSequence → Nat → Memory → Count Memory
  | [], _, memory => return memory
  | range :: rest, state, memory => do
    let (state, memory) ←
      remembered (placeOfEdge 1000 (range, state)) 0 [(range, state)] memory
    backwardChain rest state memory

/-- Counts a set.  In ASCII one state tells all bytes apart.  Beyond it characters take several
bytes: forward, states that go on in the same way are shared; backward, those that come from the
same state by the same bytes. -/
def countSet (direction : Direction) (ranges : Ranges) : Count Bool := do
  if ranges.all fun range => range.2 < 0x80 then
    Count.make 2 (Footprint.edgeSize * ranges.length)
  else
    match direction with
    | .forward =>
      let stop ← Count.next
      Count.make 1
      let _ ← forwardNode stop 4 (ByteSequence.ofRanges ranges) {}
    | .backward =>
      Count.make 1
      let stop ← Count.next
      Count.make 1
      let _ ← (ByteSequence.ofRanges ranges).foldlM
        (fun memory sequence => do
          Count.make 0 Footprint.choiceSize
          backwardChain sequence stop memory)
        ({} : Memory)
  return false

/-! ### Literals -/

/-- The bytes of a literal in the order in which they are read. -/
def literalBytes (direction : Direction) (chars : List Char) : List UInt8 :=
  let bytes := chars.flatMap String.utf8EncodeChar
  match direction with
  | .forward => bytes
  | .backward => bytes.reverse

/-- The stretches of words between those that are at their end. -/
def stretches : List (List UInt8) → List (List (List UInt8))
  | [] => [[]]
  | [] :: rest => [] :: stretches rest
  | word :: rest =>
    match stretches rest with
    | [] => [[word]]
    | stretch :: more => (word :: stretch) :: more

/-- The bytes that words start with. -/
def firstBytes (words : List (List UInt8)) : List UInt8 := (words.filterMap List.head?).eraseDups

/-- How words go on behind a byte. -/
def after (byte : UInt8) (words : List (List UInt8)) : List (List UInt8) :=
  words.filterMap fun word => if word.head? = some byte then some word.tail else none

/-- How often words are left at their end, before, between and behind words that go on.  A word that
is left at once is left once only. -/
def leavings (words : List (List UInt8)) : Nat :=
  (words.dropWhile List.isEmpty).countP List.isEmpty +
    if words.head?.any List.isEmpty then 1 else 0

/-- Counts words of up to `length` bytes, which share what they start with.  Words are tried in
order, so one that is at its end keeps those before it apart from those behind it. -/
def countWords : Nat → List (List UInt8) → Count Unit
  | 0, _ => pure ()
  | length + 1, words => do
    unless words.all List.isEmpty do
      let stretches := stretches words
      for stretch in stretches do
        for byte in firstBytes stretch do
          countWords length (after byte stretch)
        match (firstBytes stretch).length with
        | 0 => pure ()
        | 1 => Count.make 1
        | n => Count.make 1 (Footprint.edgeSize * n)
      let ways := stretches.countP (fun stretch => !stretch.isEmpty) + leavings words
      Count.make 1 (Footprint.choiceSize * ways)

/-- The characters of a literal. -/
def Term.literal? : Term → Option (List Char)
  | .literal chars => some chars
  | _ => none

/-- Counts literals one of which is matched. -/
def countLiterals (direction : Direction) (literals : List (List Char)) : Count Bool := do
  let words := literals.map (literalBytes direction)
  Count.make 1
  countWords ((words.map List.length).foldl max 0 + 1) words
  return false

/-! ### Terms -/

/-- Counts what may occur any number of times, `consumes` telling that it takes room.  Where it does
not, the choice to go on and the choice to start are different states. -/
def countStar (consumes : Bool) (body : Count Bool) : Count Bool := do
  if consumes then
    Count.make 1 Footprint.choiceSize
    Count.link (← body)
    return true
  else
    Count.link (← body)
    Count.make 3 (4 * Footprint.choiceSize)
    return false

/-- Counts a repetition. -/
def countRepetition (bounds : Bounds) (consumes : Bool) (body : Count Bool) : Count Bool := do
  match bounds with
  | ⟨0, some 1⟩ =>
    Count.make 1
    Count.link (← body)
    Count.make 1 (2 * Footprint.choiceSize)
    return false
  | ⟨0, none⟩ => countStar consumes body
  | ⟨least, none⟩ =>
    Count.link (← Count.times body least)
    Count.make 1 Footprint.choiceSize
    return true
  | ⟨least, some most⟩ =>
    let stop ← Count.times body least
    if most = least then return stop
    Count.make 1
    Count.link (← Count.optional body (most - least) stop)
    return false

mutual

/-- **Counts the states of a term.** -/
def Term.count (direction : Direction) : Term → Count Bool
  | .empty | .place _ => do Count.make 1; return false
  | .literal chars => do Count.make (literalBytes direction chars).length; return false
  | .set _ ranges => countSet direction ranges
  | .repetition bounds _ body =>
    countRepetition bounds (body.shortest.any (0 < ·)) (body.count direction)
  | .capture _ body => do
    match direction with
    | .forward =>
      Count.make 1
      Count.link (← body.count direction)
      Count.make 1
      return false
    | .backward => body.count direction
  | .concat parts => countParts direction parts
  | .alternation branches => do
    if let some literals := branches.mapM Term.literal? then countLiterals direction literals
    else
      countBranches direction 0 branches
      return false

/-- Counts the states of terms one after the other, in the order in which they are read. -/
def countParts (direction : Direction) : List Term → Count Bool
  | [] => do Count.make 1; return false
  | [part] => part.count direction
  | part :: rest => do
    match direction with
    | .forward =>
      Count.link (← part.count direction)
      countParts direction rest
    | .backward =>
      Count.link (← countParts direction rest)
      part.count direction

/-- Counts the states of branches, of which `before` are counted.  The choice between them and the
place where they meet are made when there are two. -/
def countBranches (direction : Direction) (before : Nat) : List Term → Count Unit
  | [] => pure ()
  | branch :: rest => do
    Count.make 0 Footprint.choiceSize
    Count.link (← branch.count direction)
    if before = 1 then Count.make 2
    countBranches direction (before + 1) rest

end

/-- Counts the states of the whole automaton.  Where a match may start anywhere, three states pass
over what stands before it. -/
def Term.countWhole (direction : Direction) (term : Term) : Count Unit := do
  let anchored := match direction with
    | .forward => term.isStartAnchored
    | .backward => term.isEndAnchored
  if anchored then Count.make 1
  else Count.make 3 (Footprint.edgeSize + 2 * Footprint.choiceSize)
  match direction with
  | .forward =>
    Count.make 1
    Count.link (← term.count direction)
    Count.make 2
  | .backward =>
    Count.link (← term.count direction)
    Count.make 1

/-- How many literals are searched for without an automaton of this kind. -/
def manyLiterals : Nat := 3000

/-- Whether a term is one of very many literals. -/
def Term.isWordList : Term → Bool
  | .alternation branches =>
    manyLiterals ≤ branches.length && branches.all fun branch => branch.literal?.isSome
  | _ => false

/-- **Whether the automata of a term are of moderate size**, if it needs any. -/
def Term.isModerate (term : Term) : Bool :=
  term.isWordList ||
    (term.countWhole .forward {}).isSome && (term.countWhole .backward {}).isSome

end Pattern
end SchemaTypings
