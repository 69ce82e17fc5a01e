import SchemaTypings.Proofs.Library

/-! # Gathering

Before references are collapsed, bundling gathers the documents that they lead to and makes them
pointers into the bundle.  `Gathers` is what is known then: the bundle shows the documents, every
reference at a schema names a place in one of them, and the sites are the places of these
references.
-/
namespace SchemaTypings

namespace Bundle

theorem SchemaAt.follow? {value schema : Json} {path : List String}
    (h : SchemaAt value path schema) : Pointer.follow? value path = some schema := by
  induction h with
  | here => rfl
  | under hvalue hchild _ ih =>
    rw [Pointer.follow?, Pointer.step?, hvalue, Option.bind_some, Pointer.follow?_append,
      hchild.follow?]
    exact ih

/-- The path to a schema does not use the reserved key. -/
theorem SchemaAt.head?_ne {value schema : Json} {path : List String}
    (h : SchemaAt value path schema) : path.head? ≠ some Keyword.external := by
  cases h with
  | here => exact fun h => nomatch h
  | under _ hchild _ =>
    intro heq
    have hkeyword := Option.some.inj heq
    subst hkeyword
    exact hchild.role_ne_none (by decide)

/-- Paths to one place stay so when the reserved key is added. -/
theorem SameSpot.attach {entries : Dict Json} {path path' : List String}
    (h : SameSpot (.object entries) path path') (hhead : path'.head? ≠ some Keyword.external)
    (value : Json) :
    SameSpot (.object (Dict.insert entries Keyword.external value)) path path' := by
  cases h with
  | nil => exact .nil _
  | key hstep h =>
    refine .key ?_ h
    rw [Pointer.step?, Dict.get?_insert_of_ne]
    · exact hstep
    · exact fun heq => hhead (heq ▸ rfl)

/-- A pointer into the bundle names the place that it was made for. -/
theorem split_pointerTo {root document : Uri} {fragment : String}
    (h : Resolver.isPointer fragment = true) :
    Pointer.split (pointerTo root document fragment) =
      if document.text = root.text then Pointer.split fragment
      else Keyword.external :: document.text :: Pointer.split fragment := by
  have hfragment : fragment = "" ∨ fragment.toList.head? = some '/' := by
    rcases Bool.or_eq_true_iff.1 h with hempty | hslash
    · exact Or.inl (String.isEmpty_iff.1 hempty)
    · exact Or.inr (of_decide_eq_true hslash)
  rw [pointerTo, Pointer.split_append hfragment]
  split
  · rfl
  · rw [Pointer.split_build]
    rfl

/-- **Gathering**: the bundle with the references at its schemas as pointers, and their sites. -/
def gather (schema : Json) (o : Options) (source : DocumentSource) :
    Except CompileError (Json × List Site) := do
  let base ← o.base?.mapError .badOptions
  let start : Progress := ⟨.start schema base source, []⟩
  let ((schema, documents), progress) ← (rewriteAll o.maxDepth schema).run start
  let root ← attach documents schema
  return (root, progress.sites)

/-- Bundling is gathering, and then collapsing site by site. -/
theorem ofSchema_eq (schema : Json) (o : Options) (source : DocumentSource) :
    ofSchema schema o source = gather schema o source >>= fun gathered =>
      gathered.2.foldlM (collapseSite o.maxDepth) ⟨gathered.1, []⟩ := by
  simp only [ofSchema, gather, bind_assoc, pure_bind]

end Bundle

namespace Library

open SchemaTypings.Bundle

variable {lib : Library} {source : DocumentSource} {levels : Nat} {whole : Json}

/-- The reference at a place stands in an object there. -/
theorem reference?_eq_some {p : Place} {reference : String} :
    lib.reference? p = some reference ↔
      ∃ d, lib.find? p.document = some d ∧ TextAt d.2 p.path reference := by
  unfold reference? value?
  constructor
  · intro h
    obtain ⟨entries, hobject, href⟩ := Option.bind_eq_some_iff.1 h
    obtain ⟨value, hvalue, hentries⟩ := Option.bind_eq_some_iff.1 hobject
    obtain ⟨d, hd, hfollow⟩ := Option.bind_eq_some_iff.1 hvalue
    cases value with
    | object other =>
      cases hentries
      exact ⟨d, hd, textAt_iff.2 ⟨_, hfollow, href⟩⟩
    | _ => cases hentries
  · rintro ⟨d, hd, htext⟩
    obtain ⟨entries, hfollow, href⟩ := textAt_iff.1 htext
    rw [hd, Option.bind_some, hfollow]
    exact href

/-- What a document was promised is what the bundle shows of it. -/
theorem named_of_repointed {p : Place} {reference : String} {d : Uri × Json} {start : List String}
    {progress : Progress} (hd : lib.find? p.document = some d) (hholds : lib.Holds levels whole)
    (hpromise : Repointed lib.root d.1 start d.2 (repoint lib.root d.1 levels d.2) progress)
    (hasked : ∀ text ∈ progress.resolver.asked, (lib.find? text).isSome = true)
    (hschema : lib.IsSchema p) (hreference : lib.reference? p = some reference) :
    (∃ q, lib.named? p reference = some q ∧ (lib.find? q.document).isSome = true ∧
      ∃ t, TextAt whole (lib.path p) t ∧ Pointer.split t = lib.path q) ∧
    ∃ site ∈ progress.sites, ∃ visited, Pointer.split site.pointer = start ++ visited ∧
      SameSpot d.2 visited p.path := by
  obtain ⟨d', schema, hd', hat⟩ := hschema
  rw [hd] at hd'
  cases hd'
  obtain ⟨d', hd', htext⟩ := reference?_eq_some.1 hreference
  rw [hd] at hd'
  cases hd'
  obtain ⟨entries, hfollow, href⟩ := textAt_iff.1 htext
  have hopen : lib.Open p := fun _ => hat.head?_ne
  rw [hat.follow?] at hfollow
  cases hfollow
  obtain ⟨document, fragment, htarget, hpointer, hdocument, hafter, hsite⟩ := hpromise hat href
  refine ⟨⟨⟨document.text, Pointer.split fragment⟩,
    (named?_eq_some hd).2 ⟨document, fragment, htarget, hpointer, rfl⟩, ?_, _,
    (hholds.textAt_path hd hopen).2 hafter, split_pointerTo hpointer⟩, hsite⟩
  · rcases hdocument with hroot | hmem
    · rw [hroot, find?_root]
      rfl
    · exact hasked _ hmem

/-- Paths to one place of a document lead to one place of the bundle. -/
theorem Holds.sameSpot (h : lib.Holds levels whole) {p : Place} {d : Uri × Json}
    (hd : lib.find? p.document = some d) (hopen : lib.Open p) {visited : List String}
    (hspot : SameSpot d.2 visited p.path) :
    SameSpot whole (lib.path ⟨p.document, []⟩ ++ visited) (lib.path p) := by
  have hrepointed := hspot.of_alike (alike_repoint lib.root d.1 levels d.2)
  rcases eq_root_or_mem_others hd with ⟨hroot, rfl⟩ | ⟨hother, hmem⟩
  · rw [path, if_pos hroot, path, if_pos hroot, List.nil_append]
    rcases h.cases with ⟨-, rfl⟩ | ⟨-, entries, hentries, rfl⟩
    · exact hrepointed
    · rw [hentries] at hrepointed
      exact hrepointed.attach (hopen hroot) _
  · rw [path, if_neg hother, path, if_neg hother]
    rcases h.cases with ⟨hnone, -⟩ | ⟨-, entries, -, rfl⟩
    · rw [hnone] at hmem
      cases hmem
    · refine .key (Dict.get?_insert_self ..) (.key ?_ hrepointed)
      rw [Pointer.step?, ← (find?_eq_some.1 hd).2]
      exact get?_bundled hmem

/-- **The bundle shows the documents of a library**: it holds them repointed, and every reference at
a schema names a place in one of them, to which it points. -/
structure Shows (lib : Library) (levels : Nat) (whole : Json) : Prop where
  holds : lib.Holds levels whole
  keys : whole.hasDistinctKeys = true
  named : ∀ {p : Place} {reference : String}, lib.IsSchema p → lib.reference? p = some reference →
    ∃ q, lib.named? p reference = some q ∧ (lib.find? q.document).isSome = true ∧
      ∃ t, TextAt whole (lib.path p) t ∧ Pointer.split t = lib.path q

/-- **What gathering makes of a library**: the documents come from the source, the bundle `whole`
shows them, and the sites are the places of the references at schemas. -/
structure Gathers (lib : Library) (source : DocumentSource) (levels : Nat) (whole : Json)
    (sites : List Site) : Prop extends lib.Shows levels whole where
  fetched : ∀ d ∈ lib.others, source.fetch d.1 = .ok d.2
  visited : ∀ {p : Place} {reference : String}, lib.IsSchema p →
    lib.reference? p = some reference →
    ∃ site ∈ sites, SameSpot whole (Pointer.split site.pointer) (lib.path p)
  stands : ∀ site ∈ sites, ∃ p d, lib.find? p.document = some d ∧ lib.IsSchema p ∧
    lib.reference? p = some site.reference ∧ Pointer.split site.pointer = lib.path p ∧
    Pointer.Plain d.2 p.path

/-- A site that stands in a document is the place of a reference at a schema. -/
theorem exists_place_of_standsIn {d : Uri × Json} {text : String} {site : Site}
    (hd : lib.find? text = some d) (h : StandsIn (lib.path ⟨text, []⟩) d.2 site) :
    ∃ p d, lib.find? p.document = some d ∧ lib.IsSchema p ∧
      lib.reference? p = some site.reference ∧ Pointer.split site.pointer = lib.path p ∧
      Pointer.Plain d.2 p.path := by
  obtain ⟨path, entries, hat, href, hsplit, hplain⟩ := h
  refine ⟨⟨text, path⟩, d, hd, ⟨d, _, hd, hat⟩,
    reference?_eq_some.2 ⟨d, hd, textAt_iff.2 ⟨entries, hat.follow?, href⟩⟩, ?_, hplain⟩
  rw [hsplit]
  unfold Library.path
  split <;> rfl

/-- **Gathering a schema** gathers a library. -/
theorem exists_of_gather {schema : Json} {o : Options} {sites : List Site}
    (hschema : schema.hasDistinctKeys = true)
    (hsource : ∀ uri value, source.fetch uri = .ok value → value.hasDistinctKeys = true)
    (h : gather schema o source = .ok (whole, sites)) :
    ∃ base, o.base? = .ok base ∧ ∃ lib : Library,
      lib.root = Resolver.rootUri schema base ∧ lib.schema = schema ∧
        lib.Gathers source (o.maxDepth + 1) whole sites := by
  obtain ⟨base, hbase, h⟩ := bind_eq_ok_iff.1 h
  obtain ⟨⟨⟨written, documents⟩, progress⟩, hrun, h⟩ := bind_eq_ok_iff.1 h
  obtain ⟨root, hattach, hpure⟩ := bind_eq_ok_iff.1 h
  cases hpure
  refine ⟨base, mapError_eq_ok_iff.1 hbase, ?_⟩
  obtain ⟨others, hwritten, hcollected, hpending, hroot, hothers, hsites⟩ :=
    yields_rewriteAll o.maxDepth hschema hsource (s := ⟨_, []⟩)
      (collected_start schema base source) _ _ hrun
  cases hwritten
  have hall : others ++ progress.resolver.pending = others := by rw [hpending, List.append_nil]
  have hdistinct : ((Resolver.rootUri schema base).text :: others.map fun d => d.1.text).Nodup := by
    refine List.nodup_cons.2 ⟨fun hmem => ?_, hall ▸ hcollected.distinct⟩
    obtain ⟨d, hd, heq⟩ := List.mem_map.1 hmem
    exact (hcollected.fetched d (hall.symm ▸ hd)).2.1 heq
  let lib : Library := ⟨Resolver.rootUri schema base, schema, others, hdistinct⟩
  have hfetched : ∀ d ∈ lib.others, source.fetch d.1 = .ok d.2 :=
    fun d hd => (hcollected.fetched d (hall.symm ▸ hd)).1
  have hholds : lib.Holds (o.maxDepth + 1) whole := hattach
  have hkeys : whole.hasDistinctKeys = true := hholds.hasDistinctKeys fun d hd => by
    rcases List.mem_cons.1 hd with rfl | hd
    · exact hschema
    · exact hsource d.1 d.2 (hfetched d hd)
  have hasked : ∀ text ∈ progress.resolver.asked, (lib.find? text).isSome = true := by
    intro text htext
    obtain ⟨d, hd, rfl⟩ := hcollected.complete text htext
    rw [find?_eq_some.2 ⟨List.mem_cons_of_mem _ (show d ∈ others from hall ▸ hd), rfl⟩]
    rfl
  -- the promise for the document that holds a place, with the path that the document stands at
  have hpromise : ∀ {p : Place} {d : Uri × Json}, lib.find? p.document = some d →
      Repointed lib.root d.1 (lib.path ⟨p.document, []⟩) d.2
        (repoint lib.root d.1 (o.maxDepth + 1) d.2) progress := by
    intro p d hd
    rcases eq_root_or_mem_others hd with ⟨hdocument, rfl⟩ | ⟨hdocument, hmem⟩
    · rw [path, if_pos hdocument]
      exact hroot
    · rw [path, if_neg hdocument, ← (find?_eq_some.1 hd).2]
      exact hothers d hmem
  refine ⟨lib, rfl, rfl, ⟨hholds, hkeys, ?_⟩, hfetched, ?_, ?_⟩
  · intro p reference hplace hreference
    obtain ⟨d, -, hd, -⟩ := id hplace
    exact (named_of_repointed hd hholds (hpromise hd) hasked hplace hreference).1
  · intro p reference hplace hreference
    obtain ⟨d, schema', hd, hat⟩ := id hplace
    obtain ⟨-, site, hsite, visited, hsplit, hspot⟩ :=
      named_of_repointed hd hholds (hpromise hd) hasked hplace hreference
    refine ⟨site, hsite, ?_⟩
    rw [hsplit]
    exact hholds.sameSpot hd (fun _ => hat.head?_ne) hspot
  · intro site hsite
    rcases hsites site hsite with hnone | hstands | ⟨d, hd, hstands⟩
    · cases hnone
    · refine exists_place_of_standsIn find?_root ?_
      rwa [path, if_pos rfl]
    · have hother : d.1.text ≠ lib.root.text :=
        fun heq => (List.nodup_cons.1 hdistinct).1 (heq ▸ List.mem_map.2 ⟨d, hd, rfl⟩)
      refine exists_place_of_standsIn (find?_eq_some.2 ⟨List.mem_cons_of_mem _ hd, rfl⟩) ?_
      rwa [path, if_neg hother]

end Library
end SchemaTypings
