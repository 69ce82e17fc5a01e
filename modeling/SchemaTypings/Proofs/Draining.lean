import Mathlib.Data.List.Dedup
import SchemaTypings.Proofs.Gathering
import SchemaTypings.Proofs.Sessions

/-! # Draining the queue

The loop over the waiting documents has no bound of its own: `Drains` is the loop as it runs, round
after round, until no document waits or a round fails.  A round may queue more documents, but none
is queued twice, so that the loop ends after at most one round for every document that the source
serves, and the bound that it is run with is never reached.  What was fetched on the way stands in
the bundle then, each document under its own pointer.
-/
namespace SchemaTypings

/-- The URIs under which a source serves a document. -/
def DocumentSource.served (source : DocumentSource) : List String :=
  source.answers.keys.dedup.filter fun text =>
    (source.answers.get? text).any fun answer => answer.toOption.isSome

theorem DocumentSource.mem_served {source : DocumentSource} {uri : Uri} {value : Json}
    (h : source.fetch uri = .ok value) : uri.text ∈ source.served := by
  rw [fetch] at h
  cases hanswer : source.answers.get? uri.text with
  | none =>
    rw [hanswer] at h
    cases h
  | some answer =>
    rw [hanswer] at h
    cases h
    refine List.mem_filter.2 ⟨List.mem_dedup.2 ?_, by rw [hanswer]; rfl⟩
    exact (Dict.get?_isSome_iff_mem_keys _ _).1 (by rw [hanswer]; rfl)

namespace Bundle

variable {root : Uri} {source : DocumentSource} {done documents : List (Uri × Json)}
  {limit : Nat} {p : Progress}

/-! ### The loop without a bound -/

/-- One round: the document `d` leaves the queue and is rewritten. -/
def round (limit : Nat) (d : Uri × Json) (p : Progress) : Except CompileError (Json × Progress) :=
  (rewrite limit d.1 (limit + 1) (p.resolver.documentPointer d.1) d.2).run
    { p with resolver := { p.resolver with pending := p.resolver.pending.tail } }

/-- **The loop over the waiting documents**, from the documents rewritten so far and the state,
over the documents of its rounds, to its result. -/
inductive Drains (limit : Nat) :
    Dict Json → Progress → List (Uri × Json) → Except CompileError (Dict Json × Progress) → Prop
  | empty {written : Dict Json} {p : Progress} (h : p.resolver.pending = []) :
      Drains limit written p [] (.ok (written, p))
  | fails {written : Dict Json} {p : Progress} {d : Uri × Json} {rest : List (Uri × Json)}
      {cause : CompileError} (h : p.resolver.pending = d :: rest)
      (hround : round limit d p = .error cause) : Drains limit written p [d] (.error cause)
  | round {written : Dict Json} {p after : Progress} {d : Uri × Json} {rest : List (Uri × Json)}
      {value : Json} {documents : List (Uri × Json)}
      {result : Except CompileError (Dict Json × Progress)} (h : p.resolver.pending = d :: rest)
      (hround : round limit d p = .ok (value, after))
      (hrest : Drains limit (written.insert d.1.text value) after documents result) :
      Drains limit written p (d :: documents) result

theorem run_rewritePending_nil (h : p.resolver.pending = []) (rounds : Nat) (written : Dict Json) :
    (rewritePending limit (rounds + 1) written).run p = .ok (written, p) := by
  rw [rewritePending, StateT.run_bind, StateT.run_get, pure_bind]
  dsimp only
  rw [Resolver.next?_eq, h]
  rfl

theorem run_rewritePending_cons {d : Uri × Json} {rest : List (Uri × Json)}
    (h : p.resolver.pending = d :: rest) (rounds : Nat) (written : Dict Json) :
    (rewritePending limit (rounds + 1) written).run p = round limit d p >>= fun after =>
      (rewritePending limit rounds (written.insert d.1.text after.1)).run after.2 := by
  rw [rewritePending, StateT.run_bind, StateT.run_get, pure_bind]
  dsimp only
  rw [Resolver.next?_eq, round, h]
  rfl

/-- A source that is asked once for a document has at most as many of them as it serves. -/
theorem Collected.length_le_served {r : Resolver} (h : Collected source root done r) :
    done.length ≤ source.served.length := by
  have hsub : (done.map fun d => d.1.text) ⊆ source.served := by
    intro text htext
    obtain ⟨d, hd, rfl⟩ := List.mem_map.1 htext
    exact DocumentSource.mem_served (h.fetched d (List.mem_append_left _ hd)).1
  have hdistinct : (done.map fun d => d.1.text).Nodup := by
    have hall := h.distinct
    rw [List.map_append] at hall
    exact hall.of_append_left
  have hle := (List.subperm_of_subset hdistinct hsub).length_le
  rwa [List.length_map] at hle

/-- **The loop ends.**  With a bound above the number of answers it is the loop without one, and the
documents of its rounds are served by the source, each once. -/
theorem drains_rewritePending {rounds : Nat}
    (hkeys : ∀ uri value, source.fetch uri = .ok value → value.hasDistinctKeys = true)
    (hp : Collected source root done p.resolver)
    (hrounds : source.answers.length < rounds + done.length) (written : Dict Json) :
    ∃ documents, Drains limit written p documents ((rewritePending limit rounds written).run p) ∧
      ∃ r, Collected source root (done ++ documents) r := by
  induction rounds generalizing done p written with
  | zero =>
    have hle := hp.length_le
    rw [List.length_append] at hle
    omega
  | succ rounds ih =>
    cases hpending : p.resolver.pending with
    | nil =>
      rw [run_rewritePending_nil hpending]
      exact ⟨[], .empty hpending, p.resolver, (List.append_nil done).symm ▸ hp⟩
    | cons d rest =>
      rw [run_rewritePending_cons hpending]
      have hmem : d ∈ done ++ p.resolver.pending := by
        rw [hpending]
        exact List.mem_append_right _ List.mem_cons_self
      have hnext := hp.next hpending
      cases hround : round limit d p with
      | error cause => exact ⟨[d], .fails hpending hround, _, hnext⟩
      | ok after =>
        have hafter : Collected source root (done ++ [d]) after.2.resolver := by
          unfold round at hround
          rw [hpending, List.tail_cons] at hround
          exact (yields_rewrite limit (limit + 1) (hkeys _ _ (hp.fetched d hmem).1)
            (s := { p with resolver := _ }) hnext after.1 after.2 hround).1
        have hbound : source.answers.length < rounds + (done ++ [d]).length := by
          rw [List.length_append, List.length_singleton]
          omega
        obtain ⟨documents, hdrains, r, hr⟩ := ih hafter hbound (written.insert d.1.text after.1)
        refine ⟨d :: documents, .round hpending hround hdrains, r, ?_⟩
        rwa [List.append_assoc, List.singleton_append] at hr

/-! ### The documents in the bundle -/

/-- **The URIs that a schema makes bundling ask for**, in order. -/
def fetches (schema : Json) (o : Options) (source : DocumentSource) :
    Except CompileError (List String) := do
  let base ← o.base?.mapError .badOptions
  let (_, progress) ← (rewriteAll o.maxDepth schema).run ⟨.start schema base source, []⟩
  return progress.resolver.asked.reverse

/-- What is alike but for texts stays so when more texts change. -/
theorem Alike.trans {T : String → String → Prop} {u v w : Json}
    (h : Alike (fun _ _ => True) u v) (h' : Alike T v w) : Alike (fun _ _ => True) u w := by
  refine @Alike.rec (fun _ _ => True)
    (fun u v _ => ∀ w, Alike T v w → Alike (fun _ _ => True) u w)
    (fun us vs _ => ∀ ws, List.Forall₂ (Alike T) vs ws →
      List.Forall₂ (Alike fun _ _ => True) us ws)
    (fun _ w hw => hw.mono fun _ _ _ => trivial) ?text ?array ?object ?nil ?cons u v h w h'
  case text =>
    intro t t' _ w hw
    obtain ⟨t'', rfl, -⟩ := hw.text_right
    exact .text trivial
  case array =>
    intro us vs _ ih w hw
    obtain ⟨ws, rfl, hws⟩ := hw.array_right
    exact .array (ih ws hws)
  case object =>
    intro us vs hkeys _ ih w hw
    obtain ⟨ws, rfl, hkeys', hws⟩ := hw.object_right
    exact .object (hkeys.trans hkeys') (ih _ hws)
  case nil =>
    intro ws hws
    cases hws
    exact .nil
  case cons =>
    intro u v us vs _ _ ihfirst ihrest ws hws
    cases hws with
    | cons hfirst hrest => exact .cons (ihfirst _ hfirst) (ihrest _ hrest)

/-- **A bundle that holds documents**: the reserved key has one entry for each, in order, where the
pointer of its URI leads.  It is the document but for texts. -/
def HoldsEach (r : Resolver) (documents : List (Uri × Json)) (whole : Json) : Prop :=
  ∃ entries : Dict Json, whole.field? Keyword.external = some (.object entries) ∧
    entries.keys = documents.map (fun d => d.1.text) ∧
    ∀ d ∈ documents, ∃ value, entries.get? d.1.text = some value ∧
      Pointer.resolve? whole (r.documentPointer d.1) = some value ∧
      Alike (fun _ _ => True) d.2 value

/-- Attached documents stand below the reserved key of the root. -/
theorem exists_entries_of_attach {entries : Dict Json} {schema whole : Json} (hne : entries ≠ [])
    (h : attach entries schema = .ok whole) :
    ∃ tops : Dict Json, whole = .object tops ∧
      tops.get? Keyword.external = some (.object entries) := by
  unfold attach at h
  rw [if_neg fun hempty => hne (List.isEmpty_iff.1 hempty)] at h
  cases schema with
  | object tops =>
    cases h
    exact ⟨_, rfl, Dict.get?_insert_self ..⟩
  | _ => cases h

/-- They are held, and stay so when references are collapsed. -/
theorem holdsEach_of_alike {T : String → String → Prop} {r : Resolver} {levels : Nat}
    {schema whole last : Json} (hne : documents ≠ [])
    (hdistinct : (documents.map fun d => d.1.text).Nodup)
    (hother : ∀ d ∈ documents, d.1.text ≠ r.root.text)
    (hattach : attach (documents.map (bundled root levels)) schema = .ok whole)
    (halike : Alike T whole last) : HoldsEach r documents last := by
  have hkeys : Dict.keys (documents.map (bundled root levels)) =
      documents.map fun d => d.1.text := by
    rw [Dict.keys, List.map_map]
    rfl
  obtain ⟨tops, rfl, htop⟩ := exists_entries_of_attach (mt List.map_eq_nil_iff.1 hne) hattach
  obtain ⟨lasts, rfl, -, -⟩ := halike.object_right
  have hwhole : Pointer.follow? (.object tops) [Keyword.external] =
      some (.object (documents.map (bundled root levels))) := by
    rw [Pointer.follow?, Pointer.step?, htop]
    rfl
  obtain ⟨held, hheld, hsame⟩ := halike.exists_follow? hwhole
  obtain ⟨entries, rfl, hentries, -⟩ := hsame.object_right
  refine ⟨entries, ?_, hentries.symm.trans hkeys, fun d hd => ?_⟩
  · obtain ⟨_, hlast, heq⟩ := Option.bind_eq_some_iff.1 hheld
    exact hlast.trans heq
  · have hget : Dict.get? (documents.map (bundled root levels)) d.1.text =
        some (repoint root d.1 levels d.2) :=
      Dict.get?_of_mem (hkeys ▸ hdistinct) (List.mem_map.2 ⟨d, hd, rfl⟩)
    obtain ⟨value, hvalue, hdocument⟩ := halike.exists_follow?
      ((Pointer.follow?_snoc hwhole d.1.text).trans hget)
    refine ⟨value, (Pointer.follow?_snoc hheld d.1.text).symm.trans hvalue, ?_,
      (alike_repoint root d.1 levels d.2).trans hdocument⟩
    rw [Pointer.resolve?, split_documentPointer (hother d hd)]
    exact hvalue

/-- **What was fetched stands in the bundle.** -/
theorem ofSchema_holdsEach {schema : Json} {o : Options} {b : Bundle}
    (hschema : schema.hasDistinctKeys = true)
    (hsource : ∀ uri value, source.fetch uri = .ok value → value.hasDistinctKeys = true)
    (h : ofSchema schema o source = .ok b) :
    ∃ base documents, o.base? = .ok base ∧
      fetches schema o source = .ok (documents.map fun d => d.1.text) ∧
      (documents.map fun d => d.1.text).Nodup ∧
      (∀ d ∈ documents, source.fetch d.1 = .ok d.2) ∧
      (documents ≠ [] → HoldsEach (.start schema base source) documents b.schema) := by
  rw [ofSchema_eq] at h
  obtain ⟨⟨whole, sites⟩, hgather, hfold⟩ := bind_eq_ok_iff.1 h
  obtain ⟨-, -, lib, -, -, hgathers⟩ := Library.exists_of_gather hschema hsource hgather
  obtain ⟨halike, -⟩ := collapsedTo_of_foldlM hgathers.keys (.same whole) hfold
  obtain ⟨base, hbase, hgathered⟩ := bind_eq_ok_iff.1 hgather
  obtain ⟨⟨⟨written, attached⟩, progress⟩, hrun, hheld⟩ := bind_eq_ok_iff.1 hgathered
  obtain ⟨held, hattach, hpure⟩ := bind_eq_ok_iff.1 hheld
  cases hpure
  obtain ⟨documents, hwritten, hcollected, hpending, -⟩ := yields_rewriteAll o.maxDepth hschema
    hsource (s := ⟨_, []⟩) (collected_start schema base source) _ _ hrun
  cases hwritten
  have hall : documents ++ progress.resolver.pending = documents := by
    rw [hpending, List.append_nil]
  have hfetched := hall ▸ hcollected.fetched
  have hdistinct := hall ▸ hcollected.distinct
  refine ⟨base, documents, mapError_eq_ok_iff.1 hbase, ?_, hdistinct,
    fun d hd => (hfetched d hd).1, fun hne => ?_⟩
  · rw [← hall, hcollected.inOrder]
    refine bind_eq_ok_iff.2 ⟨base, hbase, bind_eq_ok_iff.2 ⟨_, hrun, rfl⟩⟩
  · exact holdsEach_of_alike hne hdistinct (fun d hd => (hfetched d hd).2.1) hattach halike

/-- **Each document is fetched once, and the queue is drained.**  In every session the URIs that the
source is asked for are all different, none is the root, and those that it serves are handed out or
wait in the order of the fetches; no other document has a say.  The loop over the waiting documents
ends, after at most one round for every document that the source serves; and what was fetched then
stands in the bundle, each document once. -/
theorem fetches_once_and_drains {schema : Json} {o : Options}
    (hschema : schema.hasDistinctKeys = true)
    (hsource : ∀ uri value, source.fetch uri = .ok value → value.hasDistinctKeys = true) :
    (∀ (base : Uri) (calls : List Resolver.Call),
      ((Resolver.start schema base source).session calls).Orderly
        (Resolver.rootUri schema base) source ∧
      ∀ other : DocumentSource,
        (∀ uri ∈ ((Resolver.start schema base source).session calls).fetched,
          other.fetch uri = source.fetch uri) →
        (Resolver.start schema base other).session calls =
          { (Resolver.start schema base source).session calls with
            resolver := ((Resolver.start schema base source).session calls).resolver.withSource
              other }) ∧
    (∀ (base : Uri) (written : Json) (p : Progress),
      (rewrite o.maxDepth (Resolver.rootUri schema base) (o.maxDepth + 1) "#" schema).run
        ⟨.start schema base source, []⟩ = .ok (written, p) →
      ∃ rounds, Drains o.maxDepth [] p rounds
          ((rewritePending o.maxDepth (source.answers.length + 1) []).run p) ∧
        rounds.length ≤ source.served.length ∧ (rounds.map fun d => d.1.text).Nodup ∧
        ∀ d ∈ rounds, source.fetch d.1 = .ok d.2) ∧
    ∀ b, ofSchema schema o source = .ok b →
      ∃ base documents, o.base? = .ok base ∧
        fetches schema o source = .ok (documents.map fun d => d.1.text) ∧
        (documents.map fun d => d.1.text).Nodup ∧
        (∀ d ∈ documents, source.fetch d.1 = .ok d.2) ∧
        (documents ≠ [] → HoldsEach (.start schema base source) documents b.schema) := by
  refine ⟨fun base calls => ⟨Resolver.orderly_session schema base source calls, fun other h => ?_⟩,
    fun base written p hrun => ?_, fun b hb => ofSchema_holdsEach hschema hsource hb⟩
  · exact Resolver.session_withSource h
  · obtain ⟨hp, -⟩ := yields_rewrite o.maxDepth (o.maxDepth + 1) hschema (s := ⟨_, []⟩)
      (collected_start schema base source) written p hrun
    obtain ⟨rounds, hdrains, r, hr⟩ := drains_rewritePending hsource hp (Nat.lt_succ_self _) []
    rw [List.nil_append] at hr
    have hdistinct := hr.distinct
    rw [List.map_append] at hdistinct
    exact ⟨rounds, hdrains, hr.length_le_served, hdistinct.of_append_left,
      fun d hd => (hr.fetched d (List.mem_append_left _ hd)).1⟩

/-- The definition that a root refers to stands in the bundle under the URI of its document. -/
theorem fetches_once_and_drains_withDefinitions :
    withDefinitions.hasDistinctKeys = true ∧
      (∀ uri value, otherSource.fetch uri = .ok value → value.hasDistinctKeys = true) ∧
      ∃ b base documents, ofSchema withDefinitions {} otherSource = .ok b ∧
        documents.map (fun d => d.1.text) = [otherText] ∧
        HoldsEach (.start withDefinitions base otherSource) documents b.schema := by
  have hschema : withDefinitions.hasDistinctKeys = true := by decide
  have hsource : ∀ uri value, otherSource.fetch uri = .ok value → value.hasDistinctKeys = true :=
    fun _ _ => hasDistinctKeys_of_otherSource
  have hrun : (ofSchema withDefinitions {} otherSource).toOption.any (fun _ => true) = true := by
    decide +kernel
  have hfetches : (fetches withDefinitions {} otherSource).toOption.any
      (fun uris => uris = [otherText]) = true := by
    decide +kernel
  obtain ⟨b, hb, -⟩ := exists_ok_of_any hrun
  obtain ⟨uris, huris, heq⟩ := exists_ok_of_any hfetches
  obtain ⟨base, documents, -, hasked, -, -, hholds⟩ :=
    (fetches_once_and_drains (o := {}) hschema hsource).2.2 b hb
  have htexts : documents.map (fun d => d.1.text) = [otherText] :=
    (Except.ok.inj (hasked.symm.trans huris)).trans (of_decide_eq_true heq)
  refine ⟨hschema, hsource, b, base, documents, hb, htexts, hholds ?_⟩
  rintro rfl
  cases htexts

end Bundle
end SchemaTypings
