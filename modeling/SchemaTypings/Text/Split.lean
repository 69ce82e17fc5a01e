/-! # Cutting text into pieces

`pieces sep` cuts at every character that satisfies `sep` and drops it, so a text with `n`
separators has `n + 1` pieces.  `lines` cuts at line breaks: one carriage return before the break goes with
it, and a final break starts no further line.
-/
namespace SchemaTypings
namespace Text

/-- Puts a character in front of the first piece. -/
def consFirst (c : Char) : List (List Char) → List (List Char)
  | [] => [[c]]
  | piece :: rest => (c :: piece) :: rest

/-- The pieces between the characters that satisfy `sep`. -/
def pieces (sep : Char → Bool) : List Char → List (List Char)
  | [] => [[]]
  | c :: rest => if sep c then [] :: pieces sep rest else consFirst c (pieces sep rest)

theorem pieces_ne_nil (sep : Char → Bool) (cs : List Char) : pieces sep cs ≠ [] := by
  cases cs with
  | nil => simp [pieces]
  | cons c rest =>
    by_cases h : sep c
    · simp [pieces, h]
    · simp only [pieces, h, Bool.false_eq_true, if_false]
      cases pieces sep rest <;> simp [consFirst]

/-- A text without separators is its own only piece. -/
theorem pieces_eq_singleton {sep : Char → Bool} {cs : List Char} (h : ∀ c ∈ cs, sep c = false) :
    pieces sep cs = [cs] := by
  induction cs with
  | nil => rfl
  | cons c rest ih =>
    simp only [List.mem_cons, forall_eq_or_imp] at h
    simp [pieces, h.1, ih h.2, consFirst]

/-- A piece, a separator and the rest are cut at the separator. -/
theorem pieces_append {sep : Char → Bool} {cs : List Char} (h : ∀ c ∈ cs, sep c = false)
    {s : Char} (hs : sep s = true) (rest : List Char) :
    pieces sep (cs ++ s :: rest) = cs :: pieces sep rest := by
  induction cs with
  | nil => simp [pieces, hs]
  | cons c cs ih =>
    simp only [List.mem_cons, forall_eq_or_imp] at h
    simp [pieces, h.1, ih h.2, consFirst]

/-- What stands before the first character that satisfies `sep`, and what stands after it; the
second part is missing when there is no such character. -/
def splitOnce (sep : Char → Bool) (cs : List Char) : List Char × Option (List Char) :=
  match cs.dropWhile fun c => !sep c with
  | [] => (cs, none)
  | _ :: rest => (cs.takeWhile fun c => !sep c, some rest)

/-- A line without the carriage return that ends it. -/
def dropReturn (line : List Char) : List Char :=
  if line.getLast? = some '\r' then line.dropLast else line

/-- The lines among the pieces between line breaks: all but the last piece lose one carriage
return, and an empty last piece is no line. -/
def linesOfPieces : List (List Char) → List (List Char)
  | [] => []
  | [last] => if last.isEmpty then [] else [last]
  | piece :: rest => dropReturn piece :: linesOfPieces rest

/-- **The lines of a text.** -/
def lines (s : String) : List String :=
  (linesOfPieces (pieces (· = '\n') s.toList)).map String.ofList

end Text
end SchemaTypings
