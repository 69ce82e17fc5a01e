import SchemaTypings.Text.Hexadecimal
import SchemaTypings.Text.Ranges
import SchemaTypings.Text.Split

/-! # Charts of characters

What the standards say about characters fills long tables.  Here such a table is a text: entries
apart by blanks or line breaks, each a code point or a stretch of code points in hexadecimal, such
as `41-5A`, and after a colon what holds of its members, in the spelling of the table.  A *chart*
is the table read into an array, in which a character is looked up by halving.

Where a table only says which characters have something, its entries may also be `100~12E`, every
second code point of a stretch.  A *listing* holds several such tables, each behind its names and a
colon, and closed by a semicolon.
-/
namespace SchemaTypings
namespace Text

/-- A stretch of code points, both ends included, with what holds of its members. -/
structure Stretch (α : Type) where
  first : Nat
  last : Nat
  value : α

/-- Stretches in increasing order. -/
abbrev Chart (α : Type) := Array (Stretch α)

/-- The entries of a table. -/
def entries (table : String) : List (List Char) :=
  (pieces (fun c => c = ' ' || c = '\n') table.toList).filter fun entry => !entry.isEmpty

/-- The two ends of a stretch. -/
def ends (stretch : List Char) : Nat × Nat :=
  match splitOnce (· = '-') stretch with
  | (first, none) => (ofHex first, ofHex first)
  | (first, some last) => (ofHex first, ofHex last)

/-- The ranges of an entry. -/
def stretch (entry : List Char) : Ranges :=
  match splitOnce (· = '~') entry with
  | (first, some last) =>
    let first := ofHex first
    (List.range ((ofHex last - first) / 2 + 1)).map fun i => (first + 2 * i, first + 2 * i)
  | (_, none) => [ends entry]

/-- The ranges that a table without values lists. -/
def Ranges.ofTable (table : String) : Ranges := (entries table).flatMap stretch

/-- A table of a listing: the names of what it says, and its entries. -/
structure Listed where
  names : List String
  table : String

/-- The tables of a listing. -/
def listing (text : String) : List Listed :=
  (pieces (· = ';') text.toList).map fun record =>
    let (names, table) := splitOnce (· = ':') record
    ⟨(entries (String.ofList names)).map String.ofList, String.ofList (table.getD [])⟩

/-- The table of a name. -/
def table? (tables : List Listed) (name : String) : Option String :=
  (tables.find? fun listed => listed.names.contains name).map Listed.table

/-- The ranges of a name; none when there is no such name. -/
def rangesOf (tables : List Listed) (name : String) : Ranges :=
  ((table? tables name).map Ranges.ofTable).getD []

namespace Chart
variable {α : Type}

/-- The chart that a table writes; `read` understands the values. -/
def ofTable (read : List Char → α) (table : String) : Chart α :=
  ((entries table).map fun entry =>
    let (stretch, value) := splitOnce (· = ':') entry
    let (first, last) := ends stretch
    ⟨first, last, read (value.getD [])⟩).toArray

/-- The stretch that holds the code point `n` among those from place `low` up to place `high`. -/
def between (chart : Chart α) (n low high : Nat) : Option (Stretch α) :=
  if low < high then
    let middle := (low + high) / 2
    match chart[middle]? with
    | none => none
    | some stretch =>
      if n < stretch.first then between chart n low middle
      else if stretch.last < n then between chart n (middle + 1) high
      else some stretch
  else none
termination_by high - low

/-- **The stretch that holds a character.** -/
def stretch? (chart : Chart α) (c : Char) : Option (Stretch α) :=
  between chart c.toNat 0 chart.size

/-- What holds of a character. -/
def at? (chart : Chart α) (c : Char) : Option α := (stretch? chart c).map Stretch.value

/-- A stretch that is found holds the code point. -/
theorem le_of_between_eq_some {chart : Chart α} {n low high : Nat} {s : Stretch α}
    (h : between chart n low high = some s) : s.first ≤ n ∧ n ≤ s.last := by
  fun_induction between chart n low high <;> grind

end Chart

/-- The code points that a value lists, with points between them. -/
def codePoints (value : List Char) : List Char :=
  (pieces (· = '.') value).map fun digits => Char.ofNat (ofHex digits)

end Text
end SchemaTypings
