import SchemaTypings.Identifier
import SchemaTypings.Options
import SchemaTypings.TypeGraph

/-! # Type expressions

A type is written as its name where it has one, and as its structure otherwise; its own structure
is written where it is declared.  The text of an unnamed type is remembered.  An unnamed type that
is met inside itself is written as the placeholder.
-/
namespace SchemaTypings
namespace TypeGraph

/-! ### Grouping -/

/-- What the scan for loose operators knows about the text so far. -/
structure Scan where
  depth : Int := 0
  inString : Bool := false
  escaped : Bool := false

/-- The scan after one character. -/
def Scan.next (s : Scan) (c : Char) : Scan :=
  if s.inString then
    if s.escaped then { s with escaped := false }
    else if c = '\\' then { s with escaped := true }
    else if c = '"' then { s with inString := false }
    else s
  else if c = '"' then { s with inString := true }
  else if c ∈ ['(', '[', '\x7b', '<'] then { s with depth := s.depth + 1 }
  else if c ∈ [')', ']', '\x7d', '>'] then { s with depth := s.depth - 1 }
  else s

/-- Whether a character is an operator outside all brackets and strings. -/
def Scan.isLoose (s : Scan) (c : Char) : Bool :=
  !s.inString && s.depth = 0 && (c = '|' || c = '&')

/-- Whether some operator stands outside all brackets and strings. -/
def hasLooseOperator : Scan → List Char → Bool
  | _, [] => false
  | s, c :: rest => s.isLoose c || hasLooseOperator (s.next c) rest

/-- **A text in parentheses**, if an operator in it would bind looser than what surrounds it. -/
def parenthesize (text : String) : String :=
  if hasLooseOperator {} text.toList then "(" ++ text ++ ")" else text

/-! ### Texts of kinds from the texts of their parts -/

/-- The text of a union of texts. -/
def unionText : List String → String
  | [] => "never"
  | [text] => text
  | texts => "(" ++ " | ".intercalate texts ++ ")"

/-- The text of an intersection of texts. -/
def intersectionText : List String → String
  | [] => "unknown"
  | [text] => text
  | texts => "(" ++ " & ".intercalate (texts.map parenthesize) ++ ")"

/-- The text of an array of a text. -/
def arrayText (element : String) : String := parenthesize element ++ "[]"

/-- A tuple with an optional spread at its end. -/
def tupleText (elements : List String) (spread : Option String) : String :=
  "[" ++ ", ".intercalate (elements ++ (spread.map fun s => "..." ++ arrayText s).toList) ++ "]"

/-- The spread of a tuple: one stands for elements that are needed but not described. -/
def tupleSpread {α : Type} (placeholder : α) (count min : Nat) (max : Option Nat)
    (spread : Option α) : Option α :=
  match spread, max with
  | none, none => if count < min then some placeholder else none
  | spread, _ => spread

/-- The elements of a tuple: without a spread, placeholders fill it up to its largest length. -/
def tupleElements {α : Type} (placeholder : α) (elements : List α) (max : Option Nat)
    (spread : Option α) : List α :=
  match spread, max with
  | none, some max => elements ++ List.replicate (max - elements.length) placeholder
  | _, _ => elements

/-- **A bounded array as alternatives**: one tuple for every length from the least one on, of which
the longest carries the spread.  Each is given by its elements and its spread. -/
def tupleShapes {α : Type} (placeholder : α) (elements : List α) (min : Nat) (max : Option Nat)
    (spread : Option α) : List (List α × Option α) :=
  let all := tupleElements placeholder elements max spread
  let rest := tupleSpread placeholder elements.length min max spread
  let shorter := (List.range (all.length - min)).map fun i => (all.take (min + i), none)
  shorter ++ [(all, rest)]

/-- The text of a bounded array. -/
def boundedText (placeholder : String) (elements : List String) (min : Nat) (max : Option Nat)
    (spread : Option String) : String :=
  " | ".intercalate ((tupleShapes placeholder elements min max spread).map fun shape =>
    tupleText shape.1 shape.2)

/-- The text of an enumeration that is not declared. -/
def enumerationText (entries : List EnumEntry) : String :=
  unionText (entries.map fun entry => entry.value.text)

/-- The text of a class that is not declared. -/
def recordText : List String → String
  | [] => "\x7b\x7d"
  | signatures => "\x7b " ++ "; ".intercalate signatures ++ " \x7d"

/-- A member with the text of its type. -/
def signatureText (o : Options) (m : Member) (type : String) : String :=
  let key := if m.isIndex then Identifier.indexSignature else Identifier.keyText m.key
  let type := if m.isIndex && o.strictIndexSignatures then parenthesize type ++ " | undefined"
    else type
  key ++ (if m.isRequired then "" else "?") ++ ": " ++ type

/-! ### Rendering -/

/-- The texts of unnamed types that are known. -/
abbrev Texts := List (TypeId × String)

/-- Rendering remembers texts. -/
abbrev Rendering := StateM Texts

/-- The text of a kind, where `use` gives the texts of its parts. -/
def kindText (o : Options) (use : TypeId → Rendering String) : TypeKind → Rendering String
  | .any => return "any"
  | .unknown => return "unknown"
  | .null => return "null"
  | .boolean => return "boolean"
  | .number => return "number"
  | .string => return "string"
  | .literal value => return value.text
  | .object => return "object"
  | .array element => arrayText <$> use element
  | .tuple elements min max spread => do
    let elements ← elements.mapM use
    let spread ← spread.mapM use
    return boundedText o.placeholder elements min max spread
  | .union members => unionText <$> members.mapM use
  | .intersection members => intersectionText <$> members.mapM use
  | .enumeration entries => return enumerationText entries
  | .record members _ =>
    recordText <$> (members.filter Member.isVisible).mapM fun m =>
      signatureText o m <$> use m.type
  | .reference target => return target
  | .custom text => return text

/-- The text of a type where it is used: its name, or else its remembered text, or else what `raw`
gives, which is remembered. -/
def useText (g : TypeGraph) (raw : TypeId → Rendering String) (id : TypeId) : Rendering String :=
  match g.name? id with
  | some name => return name
  | none => do
    match (← get).lookup id with
    | some text => return text
    | none =>
      let text ← raw id
      modify fun texts => (id, text) :: texts
      return text

/-- The ids of the graph that are not being rendered. -/
def idle (g : TypeGraph) (active : List TypeId) : List TypeId :=
  (List.range g.size).filter fun id => id ∉ active

/-- Rendering one more type leaves fewer idle. -/
theorem length_idle_cons_lt {g : TypeGraph} {active : List TypeId} {id : TypeId}
    (hid : id < g.size) (h : id ∉ active) :
    (g.idle (id :: active)).length < (g.idle active).length := by
  have hmem : id ∈ g.idle active := by simp [idle, hid, h]
  have heq : g.idle (id :: active) = (g.idle active).filter fun other => other ≠ id := by
    unfold idle
    rw [List.filter_filter]
    apply List.filter_congr
    intro other _
    by_cases hother : other = id <;> simp [hother]
  rw [heq]
  exact List.length_filter_lt_length_iff_exists.2 ⟨id, hmem, by simp⟩

/-- **The structure of a type**, ignoring its own name.  `active` lists the types that are being
rendered around it. -/
def rawText (g : TypeGraph) (o : Options) (active : List TypeId) (id : TypeId) :
    Rendering String :=
  if _h : id < g.size ∧ id ∉ active then
    kindText o (useText g fun child => rawText g o (id :: active) child) (g.kind id)
  else return o.placeholder
termination_by (g.idle active).length
decreasing_by exact length_idle_cons_lt _h.1 _h.2

/-- The structure of a type, ignoring its own name. -/
def renderRaw (g : TypeGraph) (o : Options) (id : TypeId) : Rendering String := rawText g o [] id

/-- **A type as it is written where it is used**: its name if it has one, else its structure. -/
def render (g : TypeGraph) (o : Options) (id : TypeId) : Rendering String :=
  useText g (renderRaw g o) id

/-- A member of a class, without the semicolon. -/
def memberSignature (g : TypeGraph) (o : Options) (m : Member) : Rendering String :=
  signatureText o m <$> render g o m.type

end TypeGraph
end SchemaTypings
