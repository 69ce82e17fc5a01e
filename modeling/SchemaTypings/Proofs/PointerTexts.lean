import SchemaTypings.Proofs.Pointers

/-! # Pointers name places

The keys and positions that lead to a value are written into a pointer, and reading the pointer leads
back to the value.  Segments are read as they were written, whatever characters they hold, and the
segments that are put behind a pointer are followed from the value that it names.
-/
namespace SchemaTypings
namespace Pointer

/-! ### Escapes -/

/-- The text with one kind of escape read: a `~` before the digit stands for the character. -/
def readEscape (digit char : Char) : List Char → List Char
  | '~' :: c :: rest =>
    if c = digit then char :: readEscape digit char rest else '~' :: readEscape digit char (c :: rest)
  | c :: rest => c :: readEscape digit char rest
  | [] => []

section Escapes

variable {digit char : Char}

theorem readEscape_cons {c : Char} (hc : c ≠ '~') (rest : List Char) :
    readEscape digit char (c :: rest) = c :: readEscape digit char rest := by
  rw [readEscape]
  rintro _ _ h _
  exact hc h

theorem readEscape_tilde {cs : List Char} (h : cs.head? ≠ some digit) :
    readEscape digit char ('~' :: cs) = '~' :: readEscape digit char cs := by
  cases cs with
  | nil => rfl
  | cons c cs =>
    have hc : c ≠ digit := fun heq => h (by rw [heq]; rfl)
    rw [readEscape, if_neg hc]

/-- Reading an escape brings no digit to the front. -/
theorem head?_readEscape {cs : List Char} {d : Char} (hchar : char ≠ d)
    (h : cs.head? ≠ some d) : (readEscape digit char cs).head? ≠ some d := by
  unfold readEscape
  split
  · split
    · exact fun heq => hchar (Option.some.inj heq)
    · exact h
  · exact h
  · exact h

/-- **Reading a segment in one go is reading `~1` everywhere and then `~0` everywhere.**  In the other
order `~01` would be read twice. -/
theorem unescapeChars_eq_readEscape (cs : List Char) :
    unescapeChars cs = readEscape '0' '~' (readEscape '1' '/' cs) := by
  fun_induction unescapeChars cs with
  | case1 rest ih => rw [readEscape, if_pos rfl, readEscape_cons (by decide), ih]
  | case2 rest ih =>
    have hzero : ('0' :: rest).head? ≠ some '1' := by
      rw [List.head?_cons]
      decide
    have hplain : '0' ≠ '~' := by decide
    rw [readEscape_tilde hzero, readEscape_cons hplain, readEscape, if_pos rfl, ih]
  | case3 c rest hone hzero ih =>
    by_cases hc : c = '~'
    · subst hc
      have hnone : ∀ d, d = '1' ∨ d = '0' → rest.head? ≠ some d := by
        rintro d hd hhead
        cases rest with
        | nil => cases hhead
        | cons first rest =>
          cases hhead
          rcases hd with rfl | rfl
          · exact hone rest rfl rfl
          · exact hzero rest rfl rfl
      rw [readEscape_tilde (hnone '1' (Or.inl rfl)),
        readEscape_tilde (head?_readEscape (by decide) (hnone '0' (Or.inr rfl))), ih]
    · rw [readEscape_cons hc, readEscape_cons hc, ih]
  | case4 => rfl

/-- **Writing a segment in one go is writing `~0` for every `~` and then `~1` for every `/`.** -/
theorem escapeChars_eq_flatMap (cs : List Char) :
    escapeChars cs = (cs.flatMap fun c => if c = '~' then ['~', '0'] else [c]).flatMap
      fun c => if c = '/' then ['~', '1'] else [c] := by
  rw [List.flatMap_assoc]
  refine List.flatMap_congr fun c _ => ?_
  unfold escapeChar
  split
  · rfl
  · rw [List.flatMap_singleton]

end Escapes

/-! ### Places -/

/-- A step from a value into it. -/
inductive Hop where
  /-- To the value under a key of an object. -/
  | key (name : String)
  /-- To the item at a position of an array. -/
  | position (i : Nat)

/-- A step as a segment. -/
def Hop.text : Hop → String
  | key name => name
  | position i => toString i

/-- **The place of a value in another**: keys of objects and positions in arrays that lead to it. -/
inductive Contains : Json → List Hop → Json → Prop
  | here (value : Json) : Contains value [] value
  | key {entries : Dict Json} {name : String} {child value : Json} {place : List Hop}
      (hchild : entries.get? name = some child) (h : Contains child place value) :
      Contains (.object entries) (.key name :: place) value
  | position {items : List Json} {i : Nat} {child value : Json} {place : List Hop}
      (hchild : items[i]? = some child) (h : Contains child place value) :
      Contains (.array items) (.position i :: place) value

/-- The segments of a place lead to it. -/
theorem Contains.follow? {document value : Json} {place : List Hop}
    (h : Contains document place value) :
    Pointer.follow? document (place.map Hop.text) = some value := by
  induction h with
  | here => rfl
  | key hchild _ ih =>
    rw [List.map_cons, Hop.text, Pointer.follow?, step?, hchild]
    exact ih
  | position hchild _ ih =>
    rw [List.map_cons, Hop.text, Pointer.follow?, step?, index?_toString, Option.bind_some, hchild]
    exact ih

/-- The segments of a pointer that was built are followed from the value that its beginning names. -/
theorem resolve?_build (document : Json) (pointer : String) (segments : List String) :
    resolve? document (build pointer segments) =
      (resolve? document pointer).bind fun value => Pointer.follow? value segments := by
  rw [resolve?, split_build, follow?_append]
  rfl

/-- **Pointers name places.**  Splitting gives back the segments that a pointer was built of, so
different segments make different pointers; the pointer that is built of the keys and positions that
lead to a value names that value; and what is put behind a pointer is resolved from the value that
the pointer names. -/
theorem build_names_places :
    (∀ segments, split (build "#" segments) = segments) ∧
    (∀ segments others, build "#" segments = build "#" others → segments = others) ∧
    (∀ document place value, Contains document place value →
      resolve? document (build "#" (place.map Hop.text)) = some value) ∧
    ∀ document pointer segments, resolve? document (build pointer segments) =
      (resolve? document pointer).bind fun value => resolve? value (build "#" segments) := by
  have hsplit : ∀ segments, split (build "#" segments) = segments := fun segments => by
    rw [split_build, split_hash, List.nil_append]
  refine ⟨hsplit, fun segments others h => ?_, fun document place value h => ?_,
    fun document pointer segments => ?_⟩
  · rw [← hsplit segments, h, hsplit]
  · rw [resolve?, hsplit]
    exact h.follow?
  · rw [resolve?_build]
    simp only [resolve?, hsplit]

/-- Keys that are empty or hold slashes and tildes, one of which looks like an escape. -/
def awkwardKeys : Json :=
  .object [("", .object [("/", .array [.null, .object [("~01", .string "here")]])]), ("~1", .null)]

/-- The text lies below an empty key, a slash, the second item and `~01`. -/
theorem build_names_places_awkwardKeys :
    Contains awkwardKeys [.key "", .key "/", .position 1, .key "~01"] (.string "here") ∧
    build "#" ["", "/", "1", "~01"] = "#//~1/1/~001" ∧
    resolve? awkwardKeys "#//~1/1/~001" = some (.string "here") ∧
    split "#//~1/1/~001" = ["", "/", "1", "~01"] := by
  have hplace : Contains awkwardKeys [.key "", .key "/", .position 1, .key "~01"] (.string "here") :=
    .key rfl (.key rfl (.position rfl (.key rfl (.here _))))
  have hbuild : build "#" ["", "/", "1", "~01"] = "#//~1/1/~001" := by decide +kernel
  obtain ⟨hsplit, -, hresolve, -⟩ := build_names_places
  refine ⟨hplace, hbuild, ?_, ?_⟩
  · rw [← hbuild]
    exact hresolve _ _ _ hplace
  · rw [← hbuild]
    exact hsplit _

end Pointer
end SchemaTypings
