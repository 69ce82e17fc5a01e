import Mathlib.Data.List.Nodup
import Mathlib.Data.List.Perm.Subperm
import SchemaTypings.Proofs.Repointing

/-! # The documents of a bundle

Bundling gathers a `Library`: the root schema and the documents that its references lead to, each
with its URI.  A reference means a place in one of them, read against the URI of the document that
holds it; the bundle holds each document, repointed, at a path of its own.
-/
namespace SchemaTypings

/-- **The documents of a bundle**: the root and the others, each with a URI of its own. -/
structure Library where
  root : Uri
  schema : Json
  others : List (Uri × Json)
  distinct : (root.text :: others.map fun d => d.1.text).Nodup

/-- A place in one of the documents. -/
structure Place where
  /-- The text of the URI of the document. -/
  document : String
  path : List String
  deriving DecidableEq, Repr

namespace Library

variable (lib : Library)

/-- All documents, the root first. -/
def documents : List (Uri × Json) := (lib.root, lib.schema) :: lib.others

/-- The document with a URI. -/
def find? (document : String) : Option (Uri × Json) :=
  lib.documents.find? fun d => d.1.text = document

/-- The value at a place. -/
def value? (p : Place) : Option Json :=
  (lib.find? p.document).bind fun d => Pointer.follow? d.2 p.path

/-- The text of the reference at a place. -/
def reference? (p : Place) : Option String :=
  ((lib.value? p).bind Json.object?).bind Bundle.reference?

/-- **The place that a reference at `p` names**, read against the URI of the document that holds
`p`. -/
def named? (p : Place) (reference : String) : Option Place := do
  let (scope, _) ← lib.find? p.document
  let (document, fragment) ← Resolver.target? scope reference
  if Resolver.isPointer fragment then some ⟨document.text, Pointer.split fragment⟩ else none

/-- The path to a place in the bundle. -/
def path (p : Place) : List String :=
  if p.document = lib.root.text then p.path else Keyword.external :: p.document :: p.path

/-- Structural keywords alone lead to a place in its document. -/
def IsSchema (p : Place) : Prop :=
  ∃ d schema, lib.find? p.document = some d ∧ Bundle.SchemaAt d.2 p.path schema

variable {lib}

theorem find?_eq_some {text : String} {d : Uri × Json} :
    lib.find? text = some d ↔ d ∈ lib.documents ∧ d.1.text = text := by
  unfold find?
  constructor
  · intro h
    exact ⟨List.mem_of_find?_eq_some h, by simpa using List.find?_some h⟩
  · rintro ⟨hmem, rfl⟩
    cases hfound : lib.documents.find? fun other => other.1.text = d.1.text with
    | none =>
      have := List.find?_eq_none.1 hfound d hmem
      simp at this
    | some other =>
      have hother : other.1.text = d.1.text := by simpa using List.find?_some hfound
      have hnodup : (lib.documents.map fun d => d.1.text).Nodup := lib.distinct
      rw [List.inj_on_of_nodup_map hnodup (List.mem_of_find?_eq_some hfound) hmem hother]

theorem find?_root : lib.find? lib.root.text = some (lib.root, lib.schema) :=
  find?_eq_some.2 ⟨List.mem_cons_self, rfl⟩

/-- A document is the root, or one of the others. -/
theorem eq_root_or_mem_others {text : String} {d : Uri × Json} (h : lib.find? text = some d) :
    text = lib.root.text ∧ d = (lib.root, lib.schema) ∨ text ≠ lib.root.text ∧ d ∈ lib.others := by
  by_cases hroot : text = lib.root.text
  · subst hroot
    rw [find?_root] at h
    exact Or.inl ⟨rfl, (Option.some.inj h).symm⟩
  · obtain ⟨hmem, rfl⟩ := find?_eq_some.1 h
    rcases List.mem_cons.1 hmem with rfl | hmem
    · exact absurd rfl hroot
    · exact Or.inr ⟨hroot, hmem⟩

/-- What a reference names, in a document at hand. -/
theorem named?_eq_some {p q : Place} {reference : String} {d : Uri × Json}
    (hd : lib.find? p.document = some d) :
    lib.named? p reference = some q ↔ ∃ document fragment,
      Resolver.target? d.1 reference = some (document, fragment) ∧
        Resolver.isPointer fragment = true ∧ q = ⟨document.text, Pointer.split fragment⟩ := by
  simp only [named?, hd, Option.bind_eq_bind, Option.bind_some]
  constructor
  · intro h
    obtain ⟨⟨document, fragment⟩, htarget, hplace⟩ := Option.bind_eq_some_iff.1 h
    split at hplace
    · next hpointer => exact ⟨document, fragment, htarget, hpointer, (Option.some.inj hplace).symm⟩
    · cases hplace
  · rintro ⟨document, fragment, htarget, hpointer, rfl⟩
    rw [htarget, Option.bind_some, if_pos hpointer]

end Library

namespace Bundle

variable {root : Uri} {source : DocumentSource} {done : List (Uri × Json)}

/-! ### The documents one after the other -/

/-- A document as it stands in the bundle. -/
def bundled (root : Uri) (levels : Nat) (d : Uri × Json) : String × Json :=
  (d.1.text, repoint root d.1 levels d.2)

/-- The source answers for no more documents than were collected. -/
theorem Collected.length_le {r : Resolver} (h : Collected source root done r) :
    (done ++ r.pending).length ≤ source.answers.length := by
  have hsub : (done ++ r.pending).map (fun d => d.1.text) ⊆ source.answers.keys := by
    intro text htext
    obtain ⟨d, hd, rfl⟩ := List.mem_map.1 htext
    obtain ⟨hfetch, -⟩ := h.fetched d hd
    refine (Dict.get?_isSome_iff_mem_keys _ _).1 ?_
    cases hanswer : source.answers.get? d.1.text with
    | some answer => rfl
    | none =>
      rw [DocumentSource.fetch, hanswer] at hfetch
      cases hfetch
  have hle := (List.subperm_of_subset h.distinct hsub).length_le
  rwa [List.length_map, Dict.keys, List.length_map] at hle

/-- The place of a document that is not the root. -/
theorem split_documentPointer {r : Resolver} {uri : Uri} (hother : uri.text ≠ r.root.text) :
    Pointer.split (r.documentPointer uri) = [Keyword.external, uri.text] := by
  rw [Resolver.documentPointer, Resolver.isRoot, if_neg (by simpa using hother), Pointer.split_build,
    Pointer.split_hash, List.nil_append]

/-- The document that waits next is put behind those that are done. -/
theorem Collected.insert_bundled {r : Resolver} {first : Uri × Json} {rest : List (Uri × Json)}
    (h : Collected source root done r) (hpending : r.pending = first :: rest) (levels : Nat) :
    Dict.insert (done.map (bundled root levels)) first.1.text (repoint root first.1 levels first.2) =
      (done ++ [first]).map (bundled root levels) := by
  have hfresh : first.1.text ∉ Dict.keys (done.map (bundled root levels)) := by
    have hnodup := h.distinct
    rw [hpending, List.map_append, List.map_cons, List.nodup_append] at hnodup
    rw [Dict.keys, List.map_map]
    exact fun hmem => hnodup.2.2 _ hmem _ List.mem_cons_self rfl
  rw [Dict.insert_of_not_mem hfresh, List.map_append]
  rfl

/-- **The waiting documents are repointed**, those that appear on the way with them, until none
waits.  The sites that are added stand in them. -/
theorem yields_rewritePending (limit : Nat) {rounds : Nat} {s : Progress}
    (hkeys : ∀ uri value, source.fetch uri = .ok value → value.hasDistinctKeys = true)
    (hs : Collected source root done s.resolver)
    (hdone : ∀ d ∈ done, Repointed root d.1 [Keyword.external, d.1.text] d.2
      (repoint root d.1 (limit + 1) d.2) s)
    (hrounds : source.answers.length < rounds + done.length) :
    Yields (rewritePending limit rounds (done.map (bundled root (limit + 1)))) s fun documents t =>
      s.Le t ∧ ∃ others, documents = others.map (bundled root (limit + 1)) ∧
        Collected source root others t.resolver ∧ t.resolver.pending = [] ∧
        (∀ d ∈ others, Repointed root d.1 [Keyword.external, d.1.text] d.2
          (repoint root d.1 (limit + 1) d.2) t) ∧
        (∀ d ∈ done, d ∈ others) ∧ ∀ site ∈ t.sites, site ∈ s.sites ∨
          ∃ d ∈ others, StandsIn [Keyword.external, d.1.text] d.2 site := by
  induction rounds generalizing done s with
  | zero =>
    have hle := hs.length_le
    rw [List.length_append] at hle
    omega
  | succ rounds ih =>
    rw [rewritePending]
    refine yields_bind.2 (yields_get.2 ?_)
    cases hpending : s.resolver.pending with
    | nil =>
      rw [Resolver.next?, hpending]
      exact yields_pure.2 ⟨.refl s, done, rfl, hs, hpending, hdone, fun _ hd => hd,
        fun _ hsite => Or.inl hsite⟩
    | cons first rest =>
      rw [Resolver.next?, hpending]
      obtain ⟨uri, document⟩ := first
      have hfirst : (uri, document) ∈ done ++ s.resolver.pending := by
        rw [hpending]
        exact List.mem_append_right _ List.mem_cons_self
      obtain ⟨hfetch, hother, -⟩ := hs.fetched _ hfirst
      have hnext := hs.next hpending
      have hpath : Pointer.split (Resolver.documentPointer { s.resolver with pending := rest } uri) =
          [Keyword.external, uri.text] := split_documentPointer (hnext.sameRoot ▸ hother)
      refine yields_bind.2 (yields_of_run rfl ?_)
      refine yields_bind.2 fun after t hrun => ?_
      obtain ⟨ht, hle, hafter, hpromise⟩ := yields_rewrite limit (limit + 1)
        (s := { s with resolver := _ }) (hkeys _ _ hfetch) hnext after t hrun
      have hadded := yields_rewrite_sites limit (limit + 1) (s := { s with resolver := _ })
        (hkeys _ _ hfetch) hnext after t hrun
      rw [hpath] at hadded
      rw [hpath, hafter] at hpromise
      have hst : s.Le t := ⟨hle.sites, hle.asked⟩
      have hdone' : ∀ d ∈ done ++ [(uri, document)], Repointed root d.1
          [Keyword.external, d.1.text] d.2 (repoint root d.1 (limit + 1) d.2) t := by
        intro d hd
        rcases List.mem_append.1 hd with hd | hd
        · exact Repointed.mono (hdone d hd) hst
        · cases List.mem_singleton.1 hd
          exact hpromise
      rw [hafter, hs.insert_bundled hpending]
      refine (ih ht hdone' ?_).mono ?_
      · rw [List.length_append, List.length_singleton]
        omega
      · rintro documents u ⟨htu, others, hdocuments, hcollected, hnone, hothers, hmore, hsites⟩
        refine ⟨hst.trans htu, others, hdocuments, hcollected, hnone, hothers,
          fun d hd => hmore d (List.mem_append_left _ hd), fun site hsite => ?_⟩
        rcases hsites site hsite with hearlier | hlater
        · exact (hadded site hearlier).imp_right fun hstands =>
            ⟨_, hmore _ (List.mem_append_right _ (List.mem_singleton_self _)), hstands⟩
        · exact Or.inr hlater

/-- **The root is repointed, and then every document it leads to.** -/
theorem yields_rewriteAll (limit : Nat) {schema : Json} {s : Progress}
    (hschema : schema.hasDistinctKeys = true)
    (hkeys : ∀ uri value, source.fetch uri = .ok value → value.hasDistinctKeys = true)
    (hs : Collected source root [] s.resolver) :
    Yields (rewriteAll limit schema) s fun written t => ∃ others,
      written = (repoint root root (limit + 1) schema, others.map (bundled root (limit + 1))) ∧
        Collected source root others t.resolver ∧ t.resolver.pending = [] ∧
        Repointed root root [] schema (repoint root root (limit + 1) schema) t ∧
        (∀ d ∈ others, Repointed root d.1 [Keyword.external, d.1.text] d.2
          (repoint root d.1 (limit + 1) d.2) t) ∧
        ∀ site ∈ t.sites, site ∈ s.sites ∨ StandsIn [] schema site ∨
          ∃ d ∈ others, StandsIn [Keyword.external, d.1.text] d.2 site := by
  rw [rewriteAll]
  refine yields_bind.2 (yields_get.2 ?_)
  rw [hs.sameRoot, hs.sameSource]
  refine yields_bind.2 fun after t hrun => ?_
  obtain ⟨ht, -, hafter, hpromise⟩ := yields_rewrite limit (limit + 1) hschema hs after t hrun
  have hadded := yields_rewrite_sites limit (limit + 1) hschema hs after t hrun
  rw [hafter] at hpromise
  refine yields_bind.2 ((yields_rewritePending limit hkeys ht (fun d hd => nomatch hd) ?_).mono
    fun documents u ⟨htu, others, hdocuments, hu, hpending, hothers, _, hsites⟩ =>
      yields_pure.2 ?_)
  · rw [List.length_nil]
    omega
  · refine ⟨others, by rw [hafter, hdocuments], hu, hpending, Repointed.mono hpromise htu, hothers,
      fun site hsite => ?_⟩
    rcases hsites site hsite with hearlier | hlater
    · exact (hadded site hearlier).imp_right Or.inl
    · exact Or.inr (Or.inr hlater)

end Bundle

/-! ### The bundle as a whole -/

namespace Library

open SchemaTypings.Bundle

variable {lib : Library} {levels : Nat} {whole : Json}

/-- **The bundle holds the documents of a library**, repointed. -/
def Holds (lib : Library) (levels : Nat) (whole : Json) : Prop :=
  attach (lib.others.map (bundled lib.root levels)) (repoint lib.root lib.root levels lib.schema) =
    .ok whole

/-- Either there is only the root, or the others stand below its reserved key. -/
theorem Holds.cases (h : lib.Holds levels whole) :
    lib.others = [] ∧ whole = repoint lib.root lib.root levels lib.schema ∨
      lib.others ≠ [] ∧ ∃ entries, repoint lib.root lib.root levels lib.schema = .object entries ∧
        whole = .object (Dict.insert entries Keyword.external
          (.object (lib.others.map (bundled lib.root levels)))) := by
  unfold Holds attach at h
  cases hothers : lib.others with
  | nil =>
    rw [hothers] at h
    exact Or.inl ⟨rfl, (Except.ok.inj h).symm⟩
  | cons d rest =>
    rw [hothers] at h
    refine Or.inr ⟨List.cons_ne_nil _ _, ?_⟩
    cases hroot : repoint lib.root lib.root levels lib.schema with
    | object entries =>
      rw [hroot] at h
      exact ⟨entries, rfl, (Except.ok.inj h).symm⟩
    | _ =>
      rw [hroot] at h
      cases h

theorem get?_bundled {d : Uri × Json} (hd : d ∈ lib.others) :
    Dict.get? (lib.others.map (bundled lib.root levels)) d.1.text =
      some (repoint lib.root d.1 levels d.2) := by
  refine Dict.get?_of_mem ?_ (List.mem_map.2 ⟨d, hd, rfl⟩)
  rw [Dict.keys, List.map_map]
  exact (List.nodup_cons.1 lib.distinct).2

/-- **What the bundle holds behind the path to a place**: what stands there in the repointed
document, as long as the path does not use the reserved key of the root. -/
theorem Holds.follow?_path (h : lib.Holds levels whole) {p : Place} {d : Uri × Json}
    (hd : lib.find? p.document = some d) (rest : List String)
    (hopen : p.document = lib.root.text → ∃ segment more, p.path ++ rest = segment :: more ∧
      segment ≠ Keyword.external) :
    Pointer.follow? whole (lib.path p ++ rest) =
      Pointer.follow? (repoint lib.root d.1 levels d.2) (p.path ++ rest) := by
  rcases eq_root_or_mem_others hd with ⟨hroot, rfl⟩ | ⟨hother, hmem⟩
  · obtain ⟨segment, more, hpath, hne⟩ := hopen hroot
    rw [path, if_pos hroot, hpath]
    rcases h.cases with ⟨-, rfl⟩ | ⟨-, entries, hentries, rfl⟩
    · rfl
    · rw [hentries, Pointer.follow?, Pointer.follow?, Pointer.step?, Pointer.step?,
        Dict.get?_insert_of_ne _ _ (Ne.symm hne)]
  · rw [path, if_neg hother]
    rcases h.cases with ⟨hnone, -⟩ | ⟨-, entries, -, rfl⟩
    · rw [hnone] at hmem
      cases hmem
    · have htext : d.1.text = p.document := (find?_eq_some.1 hd).2
      rw [List.cons_append, List.cons_append, Pointer.follow?, Pointer.step?,
        Dict.get?_insert_self, Option.bind_some, Pointer.follow?, Pointer.step?, ← htext,
        get?_bundled hmem, Option.bind_some]

/-- The reserved key of the root does not lead to a place. -/
def Open (lib : Library) (p : Place) : Prop :=
  p.document = lib.root.text → p.path.head? ≠ some Keyword.external

/-- **The reference at a place** is in the bundle what it is in the repointed document. -/
theorem Holds.textAt_path (h : lib.Holds levels whole) {p : Place} {d : Uri × Json}
    (hd : lib.find? p.document = some d) (hopen : lib.Open p) {t : String} :
    TextAt whole (lib.path p) t ↔ TextAt (repoint lib.root d.1 levels d.2) p.path t := by
  unfold TextAt
  rw [h.follow?_path hd [Keyword.ref]]
  intro hroot
  cases hpath : p.path with
  | nil => exact ⟨Keyword.ref, [], rfl, by decide⟩
  | cons segment more =>
    refine ⟨segment, more ++ [Keyword.ref], rfl, ?_⟩
    have := hopen hroot
    rw [hpath] at this
    exact fun heq => this (heq ▸ rfl)

/-- An object with the reserved key is not only a reference. -/
theorem bareRef?_attached (entries : Dict Json) (value : Json) :
    bareRef? (.object (Dict.insert entries Keyword.external value)) = none := by
  cases hbare : bareRef? (.object (Dict.insert entries Keyword.external value)) with
  | none => rfl
  | some target =>
    have hentries := Json.object.inj (bareRef?_eq_some.1 hbare)
    have hvalue := Dict.get?_insert_self entries Keyword.external value
    rw [hentries] at hvalue
    cases hvalue

/-- **The value at a place** is in the bundle alike, but for the root with other documents below
it, which is no bare reference. -/
theorem Holds.exists_value (h : lib.Holds levels whole) {p : Place} (hopen : lib.Open p)
    {value : Json} (hvalue : lib.value? p = some value) :
    ∃ held, Pointer.follow? whole (lib.path p) = some held ∧
      (Alike (fun _ _ => True) value held ∨
        lib.path p = [] ∧ lib.others ≠ [] ∧ bareRef? held = none) := by
  obtain ⟨d, hd, hfollow⟩ := Option.bind_eq_some_iff.1 hvalue
  by_cases hroot : p.document = lib.root.text ∧ p.path = []
  · obtain ⟨hdocument, hpath⟩ := hroot
    have hdefault : lib.path p = [] := by rw [path, if_pos hdocument, hpath]
    rw [hdocument, find?_root] at hd
    cases hd
    rw [hpath] at hfollow
    cases hfollow
    refine ⟨whole, by rw [hdefault]; rfl, ?_⟩
    rcases h.cases with ⟨-, rfl⟩ | ⟨hothers, entries, -, rfl⟩
    · exact Or.inl (alike_repoint lib.root lib.root levels lib.schema)
    · exact Or.inr ⟨hdefault, hothers, bareRef?_attached _ _⟩
  · have hsame := h.follow?_path hd [] fun hdocument => by
      cases hpath : p.path with
      | nil => exact absurd ⟨hdocument, hpath⟩ hroot
      | cons segment more =>
        have := hopen hdocument
        rw [hpath] at this
        exact ⟨segment, more, List.append_nil _, fun heq => this (heq ▸ rfl)⟩
    rw [List.append_nil, List.append_nil] at hsame
    obtain ⟨held, hheld, halike⟩ :=
      (alike_repoint lib.root d.1 levels d.2).exists_follow? hfollow
    exact ⟨held, hsame.trans hheld, Or.inl halike⟩

/-- The bundle has distinct keys when all documents have. -/
theorem Holds.hasDistinctKeys (h : lib.Holds levels whole)
    (hkeys : ∀ d ∈ lib.documents, d.2.hasDistinctKeys = true) : whole.hasDistinctKeys = true := by
  have hrepoint : ∀ d ∈ lib.documents, (repoint lib.root d.1 levels d.2).hasDistinctKeys = true :=
    fun d hd => (alike_repoint lib.root d.1 levels d.2).hasDistinctKeys (hkeys d hd)
  have hroot := hrepoint _ List.mem_cons_self
  rcases h.cases with ⟨-, rfl⟩ | ⟨-, entries, hentries, rfl⟩
  · exact hroot
  · rw [hentries, Json.hasDistinctKeys_object] at hroot
    refine Json.hasDistinctKeys_object.2 ⟨Dict.nodup_keys_insert hroot.1 _ _, fun entry hentry => ?_⟩
    rcases Dict.mem_values_insert (List.mem_map.2 ⟨entry, hentry, rfl⟩) with hold | hnew
    · obtain ⟨other, hother, heq⟩ := List.mem_map.1 hold
      exact heq ▸ hroot.2 other hother
    · rw [hnew]
      refine Json.hasDistinctKeys_object.2 ⟨?_, fun document hdocument => ?_⟩
      · rw [Dict.keys, List.map_map]
        exact (List.nodup_cons.1 lib.distinct).2
      · obtain ⟨d, hd, rfl⟩ := List.mem_map.1 hdocument
        exact hrepoint d (List.mem_cons_of_mem _ hd)

end Library
end SchemaTypings
