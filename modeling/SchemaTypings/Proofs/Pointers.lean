import Mathlib.Data.List.Forall2
import SchemaTypings.Bundle

/-! # Places and the chains between them

A pointer is split into segments, and writing one pointer behind another puts their segments one
behind the other; so places are compared as lists of segments.  In a document whose objects have
distinct keys every entry is found under its key.  `EndsAt` follows bare references from place to
place, up to the first value that is none.
-/
namespace SchemaTypings

namespace Text

/-- Cutting at a separator cuts both sides by themselves. -/
theorem pieces_append_separator {sep : Char → Bool} {s : Char} (hs : sep s = true)
    (cs rest : List Char) : pieces sep (cs ++ s :: rest) = pieces sep cs ++ pieces sep rest := by
  induction cs with
  | nil => simp [pieces, hs]
  | cons c cs ih =>
    cases hc : sep c with
    | true => simp [pieces, hc, ih]
    | false =>
      obtain ⟨first, others, hpieces⟩ := List.exists_cons_of_ne_nil (pieces_ne_nil sep cs)
      simp [pieces, hc, ih, hpieces, consFirst]

end Text

namespace Pointer

/-! ### Segments -/

@[simp] theorem split_hash : split "#" = [] := rfl

@[simp] theorem split_empty : split "" = [] := rfl

/-- A continuation that starts with a slash is split by itself. -/
theorem split_append {pointer continuation : String}
    (h : continuation = "" ∨ continuation.toList.head? = some '/') :
    split (pointer ++ continuation) = split pointer ++ split continuation := by
  rcases h with rfl | h
  · simp
  · obtain ⟨rest, hrest⟩ : ∃ rest, continuation.toList = '/' :: rest := by
      cases hlist : continuation.toList with
      | nil =>
        rw [hlist] at h
        cases h
      | cons c rest =>
        rw [hlist, List.head?_cons, Option.some.injEq] at h
        exact ⟨rest, h ▸ rfl⟩
    have hcontinuation : split continuation =
        (Text.pieces (· = '/') rest).map fun piece => String.ofList (unescapeChars piece) := by
      simp only [split, hrest]
      rfl
    have hdrop : dropHash (pointer ++ continuation).toList =
        dropHash pointer.toList ++ '/' :: rest := by
      rw [String.toList_append, hrest]
      cases hpointer : pointer.toList with
      | nil => rfl
      | cons c cs =>
        by_cases hc : c = '#'
        · subst hc
          rfl
        · simp [dropHash, hc]
    rw [hcontinuation, split, hdrop, split]
    cases hstripped : dropHash pointer.toList with
    | nil => rfl
    | cons c cs =>
      have hslash : dropSlash (c :: cs ++ '/' :: rest) = dropSlash (c :: cs) ++ '/' :: rest := by
        by_cases hc : c = '/'
        · subst hc
          rfl
        · simp [dropSlash, hc]
      simp only [List.cons_append, List.isEmpty_cons, Bool.false_eq_true, if_false]
      rw [← List.cons_append, hslash, Text.pieces_append_separator (by simp), List.map_append]

/-- One written segment. -/
theorem split_segment (segment : String) : split ("/" ++ escape segment) = [segment] := by
  have hpieces : Text.pieces (· = '/') (escapeChars segment.toList) =
      [escapeChars segment.toList] :=
    Text.pieces_eq_singleton fun c hc => by
      have hne : c ≠ '/' := fun heq => slash_not_mem_escapeChars segment.toList (heq ▸ hc)
      simpa using hne
  have hlist : ("/" ++ escape segment).toList = '/' :: escapeChars segment.toList := by
    simp [escape]
  have hsplit : split ("/" ++ escape segment) =
      (Text.pieces (· = '/') (escapeChars segment.toList)).map fun piece =>
        String.ofList (unescapeChars piece) := by
    simp only [split, hlist]
    rfl
  rw [hsplit, hpieces, List.map_singleton, unescapeChars_escapeChars, String.ofList_toList]

/-- **Splitting a pointer that was built gives back what it was built from.** -/
theorem split_build (parent : String) (segments : List String) :
    split (build parent segments) = split parent ++ segments := by
  induction segments generalizing parent with
  | nil => simp
  | cons segment rest ih =>
    rw [build_cons, ih, String.append_assoc, split_append, split_segment, List.append_assoc]
    · rfl
    · simp

/-- The position of an item is read back. -/
theorem index?_toString (i : Nat) : index? (toString i) = some i := by
  have hlist : (toString i).toList = Nat.toDigits 10 i := by
    rw [Nat.toString_eq_repr, Nat.toList_repr]
  have hdigits : ∀ c ∈ Nat.toDigits 10 i, c.isDigit = true :=
    fun c hc => Nat.isDigit_of_mem_toDigits (by decide) (by decide) hc
  obtain ⟨c, rest, hcons⟩ := List.exists_cons_of_ne_nil (Nat.toDigits_ne_nil (b := 10) (n := i))
  have hplus : c ≠ '+' := by
    rintro rfl
    have := hdigits '+' (by rw [hcons]; exact List.mem_cons_self)
    exact absurd this (by decide)
  have hvalue : (c :: rest).foldl (fun n c => n * 10 + (c.toNat - '0'.toNat)) 0 = i := by
    have hsame := Nat.ofDigitChars_toDigits (b := 10) (n := i) (by decide) (by decide)
    rw [Nat.ofDigitChars, hcons] at hsame
    simpa only [Nat.mul_comm 10] using hsame
  have hall : (c :: rest).all Char.isDigit = true := List.all_eq_true.2 (hcons ▸ hdigits)
  rw [index?, hlist, hcons]
  split
  · next heq => exact absurd (List.cons.inj heq).1 hplus
  · rw [if_neg (by simp [hall]), hvalue]

/-! ### Values -/

theorem follow?_append (value : Json) (path rest : List String) :
    follow? value (path ++ rest) = (follow? value path).bind fun next => follow? next rest := by
  induction path generalizing value with
  | nil => rfl
  | cons segment path ih =>
    rw [List.cons_append, follow?, follow?]
    cases step? value segment with
    | none => rfl
    | some next => exact ih next

theorem follow?_snoc {value next : Json} {path : List String} (h : follow? value path = some next)
    (segment : String) : follow? value (path ++ [segment]) = step? next segment := by
  rw [follow?_append, h]
  exact Option.bind_fun_some _

end Pointer

namespace Json

mutual

/-- **No object in a value has a key twice.** -/
def hasDistinctKeys : Json → Bool
  | .array items => itemsHaveDistinctKeys items
  | .object entries => (entries.map Prod.fst).Nodup && entriesHaveDistinctKeys entries
  | _ => true

/-- All items of an array have distinct keys. -/
def itemsHaveDistinctKeys : List Json → Bool
  | [] => true
  | item :: rest => hasDistinctKeys item && itemsHaveDistinctKeys rest

/-- All values of an object have distinct keys. -/
def entriesHaveDistinctKeys : List (String × Json) → Bool
  | [] => true
  | (_, value) :: rest => hasDistinctKeys value && entriesHaveDistinctKeys rest

end

theorem itemsHaveDistinctKeys_iff {items : List Json} :
    itemsHaveDistinctKeys items = true ↔ ∀ item ∈ items, item.hasDistinctKeys = true := by
  induction items with
  | nil => simp [itemsHaveDistinctKeys]
  | cons item rest ih => simp [itemsHaveDistinctKeys, ih]

theorem entriesHaveDistinctKeys_iff {entries : Dict Json} :
    entriesHaveDistinctKeys entries = true ↔
      ∀ entry ∈ entries, entry.2.hasDistinctKeys = true := by
  induction entries with
  | nil => simp [entriesHaveDistinctKeys]
  | cons entry rest ih => simp [entriesHaveDistinctKeys, ih]

theorem hasDistinctKeys_object {entries : Dict Json} :
    (Json.object entries).hasDistinctKeys = true ↔
      entries.keys.Nodup ∧ ∀ entry ∈ entries, entry.2.hasDistinctKeys = true := by
  rw [hasDistinctKeys, Bool.and_eq_true, decide_eq_true_iff, entriesHaveDistinctKeys_iff]
  rfl

end Json

namespace Pointer

theorem hasDistinctKeys_of_step? {value next : Json} {segment : String}
    (h : value.hasDistinctKeys = true) (hstep : step? value segment = some next) :
    next.hasDistinctKeys = true := by
  cases value with
  | object entries =>
    exact (Json.hasDistinctKeys_object.1 h).2 _ (Dict.mem_of_get? hstep)
  | array items =>
    obtain ⟨i, -, hi⟩ := Option.bind_eq_some_iff.1 hstep
    exact Json.itemsHaveDistinctKeys_iff.1 h next (List.mem_of_getElem? hi)
  | _ => cases hstep

theorem hasDistinctKeys_of_follow? {value next : Json} {path : List String}
    (h : value.hasDistinctKeys = true) (hpath : follow? value path = some next) :
    next.hasDistinctKeys = true := by
  induction path generalizing value with
  | nil =>
    cases hpath
    exact h
  | cons segment path ih =>
    obtain ⟨below, hstep, hrest⟩ := Option.bind_eq_some_iff.1 hpath
    exact ih (hasDistinctKeys_of_step? h hstep) hrest

end Pointer

namespace Bundle

/-! ### Chains -/

/-- A bare reference is an object with one entry. -/
theorem bareRef?_eq_some {value : Json} {target : String} :
    bareRef? value = some target ↔ value = .object [(Keyword.ref, .string target)] := by
  unfold bareRef?
  split
  · next key other =>
    split
    · next heq => simp [heq]
    · next hne => simp [hne]
  · next hnot =>
    constructor
    · exact fun h => nomatch h
    · rintro rfl
      exact absurd rfl (hnot _ _)

/-- **Following bare references** from a place leads to a place whose value is none. -/
inductive EndsAt (root : Json) : List String → List String → Prop
  | here {path : List String} {value : Json} (hvalue : Pointer.follow? root path = some value)
      (hbare : bareRef? value = none) : EndsAt root path path
  | next {path last : List String} {value : Json} {target : String}
      (hvalue : Pointer.follow? root path = some value) (hbare : bareRef? value = some target)
      (h : EndsAt root (Pointer.split target) last) : EndsAt root path last

variable {root : Json}

/-- A chain ends at a value that is no bare reference. -/
theorem EndsAt.exists_value {path last : List String} (h : EndsAt root path last) :
    ∃ value, Pointer.follow? root last = some value ∧ bareRef? value = none := by
  induction h with
  | here hvalue hbare => exact ⟨_, hvalue, hbare⟩
  | next _ _ _ ih => exact ih

/-- A chain starts at a value. -/
theorem EndsAt.exists_start {path last : List String} (h : EndsAt root path last) :
    ∃ value, Pointer.follow? root path = some value := by
  cases h with
  | here hvalue _ => exact ⟨_, hvalue⟩
  | next hvalue _ _ => exact ⟨_, hvalue⟩

/-- From a bare reference a chain goes on to what it names. -/
theorem EndsAt.of_bareRef {path last : List String} {value : Json} {target : String}
    (h : EndsAt root path last) (hvalue : Pointer.follow? root path = some value)
    (hbare : bareRef? value = some target) : EndsAt root (Pointer.split target) last := by
  cases h with
  | here hvalue' hbare' =>
    cases hvalue.symm.trans hvalue'
    cases hbare.symm.trans hbare'
  | next hvalue' hbare' hrest =>
    cases hvalue.symm.trans hvalue'
    cases hbare.symm.trans hbare'
    exact hrest

/-- A chain has one end. -/
theorem EndsAt.unique {path last other : List String} (h : EndsAt root path last)
    (h' : EndsAt root path other) : last = other := by
  induction h with
  | here hvalue hbare =>
    cases h' with
    | here => rfl
    | next hvalue' hbare' _ =>
      rw [hvalue] at hvalue'
      cases hvalue'
      rw [hbare] at hbare'
      cases hbare'
  | next hvalue hbare _ ih => exact ih (h'.of_bareRef hvalue hbare)

/-- From its end a chain leads nowhere else. -/
theorem EndsAt.eq_of_end {path last other : List String} (h : EndsAt root path last)
    (h' : EndsAt root last other) : other = last := by
  obtain ⟨value, hvalue, hbare⟩ := h.exists_value
  exact h'.unique (.here hvalue hbare)

/-- **The last pointer of a chain** that starts at a pointer, as it is written on the way. -/
inductive LastPointer (root : Json) : String → String → Prop
  | here {pointer : String} {value : Json} (hvalue : Pointer.resolve? root pointer = some value)
      (hbare : bareRef? value = none) : LastPointer root pointer pointer
  | next {pointer target last : String} {value : Json}
      (hvalue : Pointer.resolve? root pointer = some value) (hbare : bareRef? value = some target)
      (h : LastPointer root target last) : LastPointer root pointer last

/-- The last pointer names the place where the chain ends. -/
theorem LastPointer.endsAt {pointer last : String} (h : LastPointer root pointer last) :
    EndsAt root (Pointer.split pointer) (Pointer.split last) := by
  induction h with
  | here hvalue hbare => exact .here hvalue hbare
  | next hvalue hbare _ ih => exact .next hvalue hbare ih

/-- From a bare reference the last pointer is that of what it names. -/
theorem LastPointer.of_bareRef {pointer last : String} {value : Json} {target : String}
    (h : LastPointer root pointer last) (hvalue : Pointer.resolve? root pointer = some value)
    (hbare : bareRef? value = some target) : LastPointer root target last := by
  cases h with
  | here hvalue' hbare' =>
    cases hvalue.symm.trans hvalue'
    cases hbare.symm.trans hbare'
  | next hvalue' hbare' hrest =>
    cases hvalue.symm.trans hvalue'
    cases hbare.symm.trans hbare'
    exact hrest

/-- A chain has one last pointer. -/
theorem LastPointer.unique {pointer last other : String} (h : LastPointer root pointer last)
    (h' : LastPointer root pointer other) : last = other := by
  induction h with
  | here hvalue hbare =>
    cases h' with
    | here => rfl
    | next hvalue' hbare' _ =>
      cases hvalue.symm.trans hvalue'
      cases hbare.symm.trans hbare'
  | next hvalue hbare _ ih => exact ih (h'.of_bareRef hvalue hbare)

/-- From the last pointer a chain leads nowhere else. -/
theorem LastPointer.eq_of_end {pointer last other : String} (h : LastPointer root pointer last)
    (h' : LastPointer root last other) : other = last := by
  obtain ⟨value, hvalue, hbare⟩ := h.endsAt.exists_value
  exact h'.unique (.here hvalue hbare)

end Bundle
end SchemaTypings
