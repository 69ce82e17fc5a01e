import SchemaTypings.Json.Value
import SchemaTypings.Text.Split

/-! # JSON pointers

A pointer such as `#/properties/a~1b` names a place in a document by the object keys and array
positions that lead to it.  Inside a segment `~` is written `~0` and `/` is written `~1`, so that
writing and splitting a pointer are inverse to each other.
-/
namespace SchemaTypings
namespace Pointer

/-- How one character stands inside a segment. -/
def escapeChar (c : Char) : List Char :=
  if c = '~' then ['~', '0'] else if c = '/' then ['~', '1'] else [c]

/-- A segment as it stands in a pointer. -/
def escapeChars (cs : List Char) : List Char := cs.flatMap escapeChar

/-- The segment behind its written form.  A `~` that starts no escape stands for itself. -/
def unescapeChars : List Char → List Char
  | '~' :: '1' :: rest => '/' :: unescapeChars rest
  | '~' :: '0' :: rest => '~' :: unescapeChars rest
  | c :: rest => c :: unescapeChars rest
  | [] => []

/-- A segment as it stands in a pointer. -/
def escape (segment : String) : String := String.ofList (escapeChars segment.toList)

/-- The segment behind its written form. -/
def unescape (segment : String) : String := String.ofList (unescapeChars segment.toList)

/-- The pointer that continues `parent` by the segments. -/
def build (parent : String) (segments : List String) : String :=
  segments.foldl (fun path segment => path ++ "/" ++ escape segment) parent

/-- The text after a leading `#`, if there is one. -/
def dropHash : List Char → List Char
  | '#' :: rest => rest
  | cs => cs

/-- The text after a leading `/`, if there is one. -/
def dropSlash : List Char → List Char
  | '/' :: rest => rest
  | cs => cs

/-- **The segments of a pointer.**  The empty pointer and `#` have none. -/
def split (path : String) : List String :=
  let stripped := dropHash path.toList
  if stripped.isEmpty then []
  else (Text.pieces (· = '/') (dropSlash stripped)).map fun piece =>
    String.ofList (unescapeChars piece)

/-- The array position that a segment names: decimal digits, also with zeros or a `+` in front. -/
def index? (segment : String) : Option Nat :=
  let digits := match segment.toList with
    | '+' :: rest => rest
    | cs => cs
  if digits.isEmpty ∨ ¬ digits.all Char.isDigit then none
  else some (digits.foldl (fun n c => n * 10 + (c.toNat - '0'.toNat)) 0)

/-- The value one segment below `value`. -/
def step? (value : Json) (segment : String) : Option Json :=
  match value with
  | .object entries => Dict.get? entries segment
  | .array items => (index? segment).bind fun i => items[i]?
  | _ => none

/-- The value that the segments lead to. -/
def follow? : Json → List String → Option Json
  | value, [] => some value
  | value, segment :: rest => (step? value segment).bind fun next => follow? next rest

/-- **The value that a pointer names** in a document. -/
def resolve? (root : Json) (pointer : String) : Option Json := follow? root (split pointer)

/-- Changes the value that the segments lead to, if there is one. -/
def modify (change : Json → Json) : List String → Json → Json
  | [], value => change value
  | segment :: rest, .object entries =>
    .object (entries.map fun (key, child) =>
      if key = segment then (key, modify change rest child) else (key, child))
  | segment :: rest, .array items =>
    match index? segment with
    | none => .array items
    | some i => .array (items.mapIdx fun j item => if j = i then modify change rest item else item)
  | _, value => value

@[simp] theorem escapeChars_nil : escapeChars [] = [] := rfl

theorem escapeChars_cons (c : Char) (rest : List Char) :
    escapeChars (c :: rest) = escapeChar c ++ escapeChars rest := rfl

/-- Reading a written segment gives the segment back. -/
theorem unescapeChars_escapeChars (cs : List Char) : unescapeChars (escapeChars cs) = cs := by
  induction cs with
  | nil => rfl
  | cons c rest ih =>
    rw [escapeChars_cons]
    unfold escapeChar
    split
    · next h => subst h; simp [unescapeChars, ih]
    · next h =>
      split
      · next h' => subst h'; simp [unescapeChars, ih]
      · next h' => simp [unescapeChars, h, ih]

/-- A written segment holds no `/`. -/
theorem slash_not_mem_escapeChars (cs : List Char) : '/' ∉ escapeChars cs := by
  intro h
  obtain ⟨c, -, hc⟩ := List.mem_flatMap.1 h
  unfold escapeChar at hc
  split at hc
  · simp at hc
  · split at hc
    · simp at hc
    · next h' => simp only [List.mem_singleton] at hc; exact h' hc.symm

@[simp] theorem unescape_escape (segment : String) : unescape (escape segment) = segment := by
  simp [unescape, escape, unescapeChars_escapeChars]

@[simp] theorem build_nil (parent : String) : build parent [] = parent := rfl

@[simp] theorem build_cons (parent segment : String) (rest : List String) :
    build parent (segment :: rest) = build (parent ++ "/" ++ escape segment) rest := rfl

end Pointer
end SchemaTypings
