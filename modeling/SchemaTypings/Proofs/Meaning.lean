import SchemaTypings.Proofs.Gathering

/-! # What a reference means

A reference means the place that it names in the document that holds it, and the one at the end of
the bare references from there.  In the bundle a chain ends where it is meant to, as long as
its references stand at schemas: these were repointed against their own document.
-/
namespace SchemaTypings

namespace Bundle

variable {T : String → String → Prop}

/-- A reference is settled by both paths to it. -/
theorem Settled.of_sameSpot {A B : Json} {path path' : List String} (h : Settled A B path)
    (halike : Alike T A B) (hspot : SameSpot A path path') : Settled A B path' := by
  obtain ⟨t, t', ht, ht', hskips⟩ := h
  exact ⟨t, t', hspot.textAt_iff.2 ht, (hspot.of_alike halike).textAt_iff.2 ht', hskips⟩

end Bundle

namespace Library

open SchemaTypings.Bundle

variable {lib : Library} {source : DocumentSource} {levels : Nat} {whole settled : Json}

/-- **What bundling makes of a library**: the documents come from the source, the bundle `whole`
shows them, and in `settled` the references at schemas lead to the ends of their chains. -/
structure Bundles (lib : Library) (source : DocumentSource) (levels : Nat) (whole settled : Json) :
    Prop extends lib.Shows levels whole where
  fetched : ∀ d ∈ lib.others, source.fetch d.1 = .ok d.2
  alike : Alike (Skips whole) whole settled
  settles : ∀ {p : Place} {reference : String}, lib.IsSchema p →
    lib.reference? p = some reference → Settled whole settled (lib.path p)

/-- **Bundling a schema** gathers a library and makes the bundle of it. -/
theorem exists_of_ofSchema {schema : Json} {o : Options} {b : Bundle}
    (hschema : schema.hasDistinctKeys = true)
    (hsource : ∀ uri value, source.fetch uri = .ok value → value.hasDistinctKeys = true)
    (h : Bundle.ofSchema schema o source = .ok b) :
    ∃ base, o.base? = .ok base ∧ ∃ lib : Library, ∃ whole,
      lib.root = Resolver.rootUri schema base ∧ lib.schema = schema ∧
        lib.Bundles source (o.maxDepth + 1) whole b.schema := by
  rw [ofSchema_eq] at h
  obtain ⟨⟨whole, sites⟩, hgather, hfold⟩ := bind_eq_ok_iff.1 h
  obtain ⟨base, hbase, lib, hroot, hlib, hgathers⟩ := exists_of_gather hschema hsource hgather
  obtain ⟨-, halike, hsites⟩ := of_foldlM_collapseSite hgathers.keys (.same whole) hfold
  refine ⟨base, hbase, lib, whole, hroot, hlib, hgathers.toShows, hgathers.fetched, halike,
    fun hplace hreference => ?_⟩
  obtain ⟨site, hsite, hspot⟩ := hgathers.visited hplace hreference
  exact (hsites site hsite).of_sameSpot halike hspot

/-- **The reference of a schema leads**, as it stands in the bundle, to a value that is no bare
reference. -/
theorem Bundles.concrete_at (h : lib.Bundles source levels whole settled) {p : Place}
    {reference t : String} (hplace : lib.IsSchema p) (hreference : lib.reference? p = some reference)
    (htext : TextAt settled (lib.path p) t) :
    ∃ value, Pointer.resolve? settled t = some value ∧ bareRef? value = none := by
  obtain ⟨s, s', -, hs', hskips⟩ := h.settles hplace hreference
  rw [hs'.unique htext]
  obtain ⟨value, hvalue, hbare⟩ := EndsAt.exists_value hskips
  obtain ⟨value', hvalue', halike⟩ := h.alike.exists_follow? hvalue
  exact ⟨value', hvalue', halike.bareRef?_eq_none.1 hbare⟩

/-! ### Chains as they are meant -/

/-- **Following bare references** from a place, each as the document that holds it means it.
`passes` tells which of them may be followed. -/
inductive Denotes (lib : Library) (passes : Place → String → Prop) : Place → Place → Prop
  | here {p : Place} {value : Json} (hvalue : lib.value? p = some value)
      (hbare : bareRef? value = none) : Denotes lib passes p p
  | next {p q last : Place} {value : Json} {reference : String}
      (hvalue : lib.value? p = some value) (hbare : bareRef? value = some reference)
      (hpasses : passes p reference) (hnamed : lib.named? p reference = some q)
      (h : Denotes lib passes q last) : Denotes lib passes p last

/-- A reference is **read as it is meant** when structural keywords lead to it, or when its text
names the same place as a pointer into the bundle. -/
def ReadAsMeant (lib : Library) (p : Place) (reference : String) : Prop :=
  lib.IsSchema p ∨ (lib.named? p reference).map lib.path = some (Pointer.split reference)

/-- A bare reference on the way is followed as it is meant; at the root it must stay one, so that
nothing may be put below it. -/
def FollowedAsMeant (lib : Library) (p : Place) (reference : String) : Prop :=
  lib.ReadAsMeant p reference ∧ (lib.path p = [] → lib.others = [])

/-- Where the root does not use the reserved key, everything that is there is kept. -/
theorem open_of_value? (hreserved : lib.schema.field? Keyword.external = none) {p : Place}
    {value : Json} (hvalue : lib.value? p = some value) : lib.Open p := by
  intro hroot hhead
  rw [value?, hroot, find?_root, Option.bind_some] at hvalue
  obtain ⟨more, hpath⟩ := List.head?_eq_some_iff.1 hhead
  rw [hpath] at hvalue
  obtain ⟨next, hstep, -⟩ := Option.bind_eq_some_iff.1 hvalue
  cases hschema : lib.schema with
  | object entries =>
    rw [hschema] at hstep hreserved
    cases hstep.symm.trans hreserved
  | array items =>
    rw [hschema, Pointer.step?, show Pointer.index? Keyword.external = none from by decide] at hstep
    cases hstep
  | _ =>
    rw [hschema] at hstep
    cases hstep

/-- **Where no schema is, references are not rewritten**: the bundle holds the text as written. -/
theorem Shows.textAt_elsewhere (h : lib.Shows levels whole) {p : Place}
    {reference : String} (hopen : lib.Open p) (hschema : ¬ lib.IsSchema p)
    (hreference : lib.reference? p = some reference) : TextAt whole (lib.path p) reference := by
  obtain ⟨d, hd, htext⟩ := reference?_eq_some.1 hreference
  obtain ⟨t, ht, -⟩ := htext.right (alike_repoint lib.root d.1 levels d.2)
  rcases schemaAt_or_textAt_of_repoint ht with ⟨schema, hat⟩ | hold
  · exact absurd ⟨d, schema, hd, hat⟩ hschema
  · rw [htext.unique hold] at ht
    exact (h.holds.textAt_path hd hopen).2 ht

/-- **A reference that is read as it is meant** is in the bundle a pointer to what it names. -/
theorem Shows.exists_textAt (h : lib.Shows levels whole) {p q : Place}
    {reference : String} (hopen : lib.Open p) (hreference : lib.reference? p = some reference)
    (hread : lib.ReadAsMeant p reference) (hnamed : lib.named? p reference = some q) :
    ∃ t, TextAt whole (lib.path p) t ∧ Pointer.split t = lib.path q := by
  by_cases hschema : lib.IsSchema p
  · obtain ⟨q', hnamed', -, ht⟩ := h.named hschema hreference
    rw [hnamed] at hnamed'
    cases hnamed'
    exact ht
  · have hsame := hread.resolve_left hschema
    rw [hnamed, Option.map_some, Option.some.injEq] at hsame
    exact ⟨reference, h.textAt_elsewhere hopen hschema hreference, hsame.symm⟩

/-- A bare reference is a reference. -/
theorem reference?_of_bareRef? {p : Place} {value : Json} {reference : String}
    (hvalue : lib.value? p = some value) (hbare : bareRef? value = some reference) :
    lib.reference? p = some reference := by
  rw [bareRef?_eq_some] at hbare
  subst hbare
  rw [reference?, hvalue]
  rfl

/-- The target of a bare reference is the text of its reference. -/
theorem textAt_of_bareRef? {root value : Json} {path : List String} {t : String}
    (hvalue : Pointer.follow? root path = some value) (hbare : bareRef? value = some t) :
    TextAt root path t := by
  rw [bareRef?_eq_some] at hbare
  subst hbare
  exact textAt_iff.2 ⟨_, hvalue, rfl⟩

/-- **A chain ends in the bundle where it is meant to**, when its references are followed as they
are meant. -/
theorem Shows.endsAt (h : lib.Shows levels whole)
    (hreserved : lib.schema.field? Keyword.external = none) {p last : Place}
    (hdenotes : lib.Denotes lib.FollowedAsMeant p last) :
    EndsAt whole (lib.path p) (lib.path last) := by
  induction hdenotes with
  | here hvalue hbare =>
    obtain ⟨held, hheld, halike | ⟨-, -, hnone⟩⟩ :=
      h.holds.exists_value (open_of_value? hreserved hvalue) hvalue
    · exact .here hheld (halike.bareRef?_eq_none.1 hbare)
    · exact .here hheld hnone
  | next hvalue hbare hpasses hnamed _ ih =>
    have hopen := open_of_value? hreserved hvalue
    obtain ⟨t, ht, hsplit⟩ := h.exists_textAt hopen (reference?_of_bareRef? hvalue hbare) hpasses.1
      hnamed
    obtain ⟨held, hheld, halike | ⟨hroot, hothers, -⟩⟩ := h.holds.exists_value hopen hvalue
    · obtain ⟨t', hbare', -⟩ := halike.bareRef?_right hbare
      have hsame := ht.unique (textAt_of_bareRef? hheld hbare')
      rw [← hsplit, ← hsame] at ih
      exact .next hheld hbare' ih
    · exact absurd (hpasses.2 hroot) hothers

end Library
end SchemaTypings
