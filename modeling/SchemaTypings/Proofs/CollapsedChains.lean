import Mathlib.Data.List.Basic
import SchemaTypings.Proofs.KeptTexts
import SchemaTypings.Proofs.ReferenceTargets

/-! # Collapsing follows the chains that were there before

The sites are collapsed one after the other, in a document in which earlier ones are collapsed
already.  Still each reference comes to the last pointer of the chain that starts at it in the
document before any was collapsed, so that the order of the sites shows in nothing but the order of
the table of references.  Against the documents as they were written, only the references at the
sites are changed.
-/
namespace SchemaTypings
namespace Bundle

/-! ### The table of references -/

variable {final : Site → String}

/-- Notes the reference of a site under the place that it leads to, unless one is there already. -/
def note (final : Site → String) (texts : Dict String) (site : Site) : Dict String :=
  if texts.contains (final site) then texts else texts.insert (final site) site.reference

/-- **The table holds the first reference to each place**, in the order of these references. -/
structure HoldsFirsts (final : Site → String) (sites : List Site) (texts : Dict String) : Prop where
  keys : texts.keys = (sites.map final).eraseDups
  first : ∀ target, texts.get? target =
    (sites.find? fun site => final site = target).map Site.reference

theorem HoldsFirsts.note {sites : List Site} {texts : Dict String}
    (h : HoldsFirsts final sites texts) (site : Site) :
    HoldsFirsts final (sites ++ [site]) (note final texts site) := by
  have hknown : texts.contains (final site) = true ↔ final site ∈ sites.map final := by
    rw [Dict.contains_iff_mem_keys, h.keys, List.mem_eraseDups]
  have hfirst : ∀ target, ((sites ++ [site]).find? fun other => final other = target) =
      (sites.find? fun other => final other = target).or
        (if final site = target then some site else none) := by
    intro target
    rw [List.find?_append, List.find?_singleton]
    simp only [decide_eq_true_eq]
  unfold Bundle.note
  split
  · next hcontains =>
    obtain ⟨earlier, hearlier, heq⟩ := List.mem_map.1 (hknown.1 hcontains)
    refine ⟨?_, fun target => ?_⟩
    · rw [h.keys, List.map_append, List.eraseDups_append]
      have hnothing : (List.map final [site]).removeAll (sites.map final) = [] := by
        simp only [List.removeAll, List.map_singleton, List.filter_eq_nil_iff, List.mem_singleton]
        rintro _ rfl
        simpa using ⟨earlier, hearlier, heq⟩
      rw [hnothing, List.eraseDups_nil, List.append_nil]
    · rw [h.first, hfirst]
      split
      · next htarget =>
        have hfound : (sites.find? fun other => final other = target).isSome = true :=
          List.find?_isSome.2 ⟨earlier, hearlier, by simpa using heq.trans htarget⟩
        obtain ⟨found, hfound⟩ := Option.isSome_iff_exists.1 hfound
        rw [hfound, Option.some_or]
      · rw [Option.or_none]
  · next hcontains =>
    have hnew : final site ∉ sites.map final := fun hmem => hcontains (hknown.2 hmem)
    refine ⟨?_, fun target => ?_⟩
    · rw [Dict.keys_insert, if_neg (by rwa [h.keys, List.mem_eraseDups]), h.keys, List.map_append,
        List.eraseDups_append]
      have hsingle : (List.map final [site]).removeAll (sites.map final) = [final site] := by
        simp only [List.removeAll, List.map_singleton, List.filter_eq_self, List.mem_singleton]
        rintro _ rfl
        simpa using hnew
      rw [hsingle]
      rfl
    · rw [hfirst]
      by_cases htarget : final site = target
      · subst htarget
        have hnone : (sites.find? fun other => final other = final site) = none := by
          refine List.find?_eq_none.2 fun other hother heq => hnew ?_
          exact List.mem_map.2 ⟨other, hother, of_decide_eq_true heq⟩
        rw [Dict.get?_insert_self, hnone, if_pos rfl]
        rfl
      · rw [Dict.get?_insert_of_ne _ _ htarget, h.first, if_neg htarget, Option.or_none]

/-- Noting all sites holds the first reference to each place. -/
theorem holdsFirsts_foldl (final : Site → String) (sites : List Site) :
    HoldsFirsts final sites (sites.foldl (note final) []) := by
  suffices h : ∀ done texts, HoldsFirsts final done texts →
      HoldsFirsts final (done ++ sites) (sites.foldl (note final) texts) from
    h [] [] ⟨rfl, fun _ => rfl⟩
  induction sites with
  | nil =>
    intro done texts h
    rwa [List.append_nil]
  | cons site rest ih =>
    intro done texts h
    rw [List.foldl_cons, List.append_cons]
    exact ih _ _ (h.note site)

/-! ### What the run writes -/

/-- Writes the place that the reference at a site leads to. -/
def settle (final : Site → String) (document : Json) (site : Site) : Json :=
  Pointer.modify (retarget (final site)) (Pointer.split site.pointer) document

/-- **The run over the sites** writes at each what it finds there in the end. -/
theorem foldlM_collapseSite_eq {A : Json} (hkeys : A.hasDistinctKeys = true) {limit : Nat}
    {sites : List Site} {b c : Bundle} (halike : Alike (LastPointer A) A b.schema)
    (h : sites.foldlM (collapseSite limit) b = .ok c)
    (hfinal : ∀ site ∈ sites,
      CollapsedTo A c.schema (Pointer.split site.pointer) (final site)) :
    c.schema = sites.foldl (settle final) b.schema ∧
      c.referenceTexts = sites.foldl (note final) b.referenceTexts := by
  induction sites generalizing b with
  | nil =>
    cases h
    exact ⟨rfl, rfl⟩
  | cons first rest ih =>
    rw [List.foldlM_cons] at h
    obtain ⟨next, hnext, hrest⟩ := bind_eq_ok_iff.1 h
    obtain ⟨hall, -, target, htarget, rfl⟩ := of_collapseSite hkeys halike hnext
    obtain ⟨-, hkept, -⟩ := collapsedTo_of_foldlM hkeys hall hrest
    -- what is written now is what is there in the end
    obtain rfl : final first = target :=
      (hfinal first List.mem_cons_self).unique (hkept _ _ htarget)
    exact ih hall hrest fun site hsite => hfinal site (List.mem_cons_of_mem _ hsite)

/-- The paths, in a document as it was written, to the references at the sites. -/
def SitePath (document : Json) (sites : List Site) (path : List String) : Prop :=
  ∃ site ∈ sites, SameSpot document (Pointer.split site.pointer ++ [Keyword.ref]) path

/-- **Writing at the sites changes texts there only.** -/
theorem of_foldl_settle {A base : Json} (hkeys : base.hasDistinctKeys = true) {sites : List Site}
    (hsites : ∀ site ∈ sites, TextAt base (Pointer.split site.pointer) site.reference)
    (halike : Alike (fun _ _ => True) base A) :
    Alike (fun _ _ => True) base (sites.foldl (settle final) A) ∧
      KeepsTexts (SitePath base sites) A (sites.foldl (settle final) A) := by
  induction sites generalizing A with
  | nil => exact ⟨halike, fun path t ht => Or.inl ht⟩
  | cons first rest ih =>
    have hfirst := hsites first List.mem_cons_self
    have hnext : Alike (fun _ _ => True) base (settle final A first) :=
      halike.modify hkeys hfirst trivial
    obtain ⟨hlast, hkeeps⟩ :=
      ih (fun site hsite => hsites site (List.mem_cons_of_mem _ hsite)) hnext
    obtain ⟨t, ht, -⟩ := hfirst.right halike
    refine ⟨hlast, ((keepsTexts_modify ht (final first)).mono fun path hspot => ?_).trans
      (hkeeps.mono fun path ⟨site, hsite, hspot⟩ => ⟨site, List.mem_cons_of_mem _ hsite, hspot⟩)⟩
    exact ⟨first, List.mem_cons_self, hspot.of_alike halike.symm⟩

/-! ### Collapsing as a whole -/

/-- **What collapsing comes to.**  `base` are the documents as they were written, `whole` is the
document before any site is collapsed, and `final` tells where the references at the sites lead. -/
structure Collapses (base whole : Json) (sites : List Site) (b : Bundle) (final : Site → String) :
    Prop where
  /-- A site is the place of a reference, whose text is noted with it. -/
  written : ∀ site ∈ sites, Pointer.Plain base (Pointer.split site.pointer) ∧
    TextAt base (Pointer.split site.pointer) site.reference
  /-- In the end the last pointer of the chain from the site stands there. -/
  collapsed : ∀ site ∈ sites,
    CollapsedTo whole b.schema (Pointer.split site.pointer) (final site)
  /-- It leads to a value that is no bare reference. -/
  concrete : ∀ site ∈ sites, ∃ value, Pointer.resolve? b.schema (final site) = some value ∧
    bareRef? value = none
  firsts : HoldsFirsts final sites b.referenceTexts
  alike : Alike (fun _ _ => True) base b.schema
  kept : KeepsTexts (SitePath base sites) base b.schema

end Bundle

namespace Library

open SchemaTypings.Bundle

variable {lib : Library} {source : DocumentSource} {levels : Nat} {base whole : Json}
  {sites : List Site}

/-- A plainly written path in a document is one in the bundle. -/
theorem Holds.plain_path (h : lib.Holds 0 base) {p : Place} {d : Uri × Json}
    (hd : lib.find? p.document = some d) (hopen : lib.Open p) (hplain : Pointer.Plain d.2 p.path) :
    Pointer.Plain base (lib.path p) := by
  rcases eq_root_or_mem_others hd with ⟨hroot, rfl⟩ | ⟨hother, hmem⟩
  · rw [Library.path, if_pos hroot]
    rcases h.cases with ⟨-, rfl⟩ | ⟨-, entries, hentries, rfl⟩
    · exact hplain
    · replace hentries : lib.schema = .object entries := hentries
      have hhead := hopen hroot
      rw [hentries] at hplain
      generalize p.path = path at hplain hhead ⊢
      cases hplain with
      | nil => exact .nil _
      | key hget hrest =>
        refine .key ?_ hrest
        rwa [Dict.get?_insert_of_ne]
        exact fun heq => hhead (heq ▸ rfl)
  · rw [Library.path, if_neg hother]
    rcases h.cases with ⟨hnone, -⟩ | ⟨-, entries, -, rfl⟩
    · rw [hnone] at hmem
      cases hmem
    · refine .key (Dict.get?_insert_self ..) (.key ?_ hplain)
      rw [← (find?_eq_some.1 hd).2]
      exact get?_bundled hmem

/-- Sites are written plainly, and each notes the text that was written there. -/
theorem Gathers.written (h : lib.Gathers source levels whole sites) (hbase : lib.Holds 0 base)
    {site : Site} (hsite : site ∈ sites) :
    Pointer.Plain base (Pointer.split site.pointer) ∧
      TextAt base (Pointer.split site.pointer) site.reference := by
  obtain ⟨p, d, hd, ⟨d', schema, hd', hat⟩, hreference, hpath, hplain⟩ := h.stands site hsite
  cases hd.symm.trans hd'
  have hopen : lib.Open p := fun _ => hat.head?_ne
  obtain ⟨d', hd', htext⟩ := reference?_eq_some.1 hreference
  cases hd.symm.trans hd'
  rw [hpath]
  exact ⟨hbase.plain_path hd hopen hplain, (hbase.textAt_path hd hopen).2 htext⟩

/-- The references at schemas are those at the sites. -/
theorem Gathers.sitePath (h : lib.Gathers source levels whole sites) (hbase : lib.Holds 0 base)
    {path : List String} (hpath : lib.ReferencePath path) : SitePath base sites path := by
  obtain ⟨p, reference, rfl, hplace, href⟩ := hpath
  obtain ⟨site, hsite, hspot⟩ := h.visited hplace href
  replace hspot := hspot.of_alike (hbase.alike h.holds).symm
  obtain ⟨-, htext⟩ := h.written hbase hsite
  obtain ⟨entries, hentries, -⟩ := textAt_iff.1 htext
  refine ⟨site, hsite, hspot.append hentries (.key ?_ (.nil (.string site.reference)))⟩
  obtain ⟨value, hvalue, hnil⟩ := Option.bind_eq_some_iff.1
    ((Pointer.follow?_append base _ _).symm.trans htext)
  cases hentries.symm.trans hvalue
  obtain ⟨text, hstep, heq⟩ := Option.bind_eq_some_iff.1 hnil
  rwa [Option.some.inj heq] at hstep

end Library

namespace Bundle

/-- **Collapsing in place follows the chains that were there before**, in whatever order the sites
come: what a reference leads to is read in the document before any was collapsed, the table names
the first reference to each place, and but for the references at the sites everything is as it was
written, in the root and in the documents that stand below its reserved key. -/
theorem ofSchema_collapses {schema : Json} {o : Options} {source : DocumentSource} {b : Bundle}
    (hschema : schema.hasDistinctKeys = true)
    (hsource : ∀ uri value, source.fetch uri = .ok value → value.hasDistinctKeys = true)
    (h : ofSchema schema o source = .ok b) :
    ∃ (whole : Json) (sites : List Site) (documents : Dict Json) (base : Json)
      (final : Site → String), gather schema o source = .ok (whole, sites) ∧
      attach documents schema = .ok base ∧
      (∀ entry ∈ documents, ∃ uri : Uri, uri.text = entry.1 ∧ source.fetch uri = .ok entry.2) ∧
      Collapses base whole sites b final := by
  rw [ofSchema_eq] at h
  obtain ⟨⟨whole, sites⟩, hgather, hfold⟩ := bind_eq_ok_iff.1 h
  obtain ⟨-, -, lib, -, rfl, hgathers⟩ := Library.exists_of_gather hschema hsource hgather
  obtain ⟨base, hbase⟩ := hgathers.holds.exists_written
  have hkeys : base.hasDistinctKeys = true := hbase.hasDistinctKeys fun d hd => by
    rcases List.mem_cons.1 hd with rfl | hd
    · exact hschema
    · exact hsource d.1 d.2 (hgathers.fetched d hd)
  obtain ⟨halike, -, hsites⟩ := collapsedTo_of_foldlM hgathers.keys (.same whole) hfold
  choose! final hfinal using hsites
  obtain ⟨hlast, htexts⟩ := foldlM_collapseSite_eq hgathers.keys (.same whole) hfold hfinal
  obtain ⟨hsame, hkept⟩ := @of_foldl_settle final _ base hkeys sites
    (fun site hsite => (hgathers.written hbase hsite).2) (hbase.alike hgathers.holds)
  rw [← hlast] at hsame hkept
  refine ⟨whole, sites, lib.others.map (bundled lib.root 0), base, final, hgather, hbase,
    fun entry hentry => ?_,
    { written := fun site hsite => hgathers.written hbase hsite
      collapsed := hfinal
      concrete := fun site hsite => ?_
      firsts := htexts ▸ holdsFirsts_foldl final sites
      alike := hsame
      kept := ((hbase.keepsTexts hgathers.holds).mono fun path => hgathers.sitePath hbase).trans
        hkept }⟩
  · obtain ⟨d, hd, rfl⟩ := List.mem_map.1 hentry
    exact ⟨d.1, rfl, hgathers.fetched d hd⟩
  · obtain ⟨t, -, hends, -⟩ := hfinal site hsite
    obtain ⟨value, hvalue, hbare⟩ := hends.endsAt.exists_value
    obtain ⟨value', hvalue', hsimilar⟩ := halike.exists_follow? hvalue
    exact ⟨value', hvalue', hsimilar.bareRef?_eq_none.1 hbare⟩

/-- A root whose references lead over one another into another document. -/
def chained : Json :=
  .object [("properties", .object [("a", .object [("$ref", .string "#/definitions/A")])]),
    ("definitions", .object [("A", .object [("$ref", .string "#/definitions/B")]),
      ("B", .object [("$ref", .string "other.json#/definitions/X")])])]

/-- All three references of the root come to the definition in the other document, which is noted
with the first of them. -/
theorem ofSchema_collapses_chained :
    ∃ (b : Bundle) (whole : Json) (sites : List Site) (documents : Dict Json) (base : Json)
      (final : Site → String), ofSchema chained {} otherSource = .ok b ∧
      gather chained {} otherSource = .ok (whole, sites) ∧ sites.length = 4 ∧
      attach documents chained = .ok base ∧ Collapses base whole sites b final ∧
      b.referenceTexts = [("#/$external/file:~1~1~1other.json/definitions/X", "#/definitions/A"),
        ("#/$external/file:~1~1~1other.json/definitions/D", "#/definitions/D")] := by
  have hrun : (ofSchema chained {} otherSource).toOption.any (fun b => b.referenceTexts =
      [("#/$external/file:~1~1~1other.json/definitions/X", "#/definitions/A"),
        ("#/$external/file:~1~1~1other.json/definitions/D", "#/definitions/D")]) = true := by
    decide +kernel
  obtain ⟨b, hb, htexts⟩ := exists_ok_of_any hrun
  have hsites : (gather chained {} otherSource).toOption.any (fun gathered =>
      gathered.2.length = 4) = true := by
    decide +kernel
  obtain ⟨gathered, hgather, hlength⟩ := exists_ok_of_any hsites
  obtain ⟨whole, sites, documents, base, final, hgather', hattach, -, hcollapses⟩ :=
    ofSchema_collapses (by decide) (fun _ _ => hasDistinctKeys_of_otherSource) hb
  cases hgather.symm.trans hgather'
  exact ⟨b, whole, sites, documents, base, final, hb, hgather', of_decide_eq_true hlength, hattach,
    hcollapses, of_decide_eq_true htexts⟩

end Bundle
end SchemaTypings
