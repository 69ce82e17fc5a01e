import SchemaTypings.Proofs.SchemaPlaces

/-! # Rewriting a document

The run of rewriting through the resolver is `repoint`: every reference at a schema becomes the
pointer to what it names, it has a site, and the document that it names was asked for.  What the
resolver has collected on the way are the documents that the source gave, each once.
-/
namespace SchemaTypings
namespace Bundle

variable {root scope : Uri}

/-- **What rewriting promises of a document** that stands at `path` in the bundle: the reference of
every schema in it leads to a place, is the pointer to that place in `after`, and has a site. -/
def Repointed (root scope : Uri) (path : List String) (before after : Json) (p : Progress) : Prop :=
  ∀ {rest : List String} {entries : Dict Json} {reference : String},
    SchemaAt before rest (.object entries) → reference? entries = some reference →
    ∃ document fragment, Resolver.target? scope reference = some (document, fragment) ∧
      Resolver.isPointer fragment = true ∧
      (document.text = root.text ∨ document.text ∈ p.resolver.asked) ∧
      TextAt after rest (pointerTo root document fragment) ∧
      ∃ site ∈ p.sites, ∃ visited, Pointer.split site.pointer = path ++ visited ∧
        SameSpot before visited rest

/-- **A site that stands in a document**, which stands at `start` in the bundle: it is the place of
a schema that holds its reference, and is written plainly. -/
def StandsIn (start : List String) (document : Json) (site : Site) : Prop :=
  ∃ path entries, SchemaAt document path (.object entries) ∧
    reference? entries = some site.reference ∧ Pointer.split site.pointer = start ++ path ∧
    Pointer.Plain document path

/-! ### The documents that are waited for -/

/-- **What the resolver has collected**: the documents that it asked for, in that order, as the
source gave them; none twice, and none the root. -/
structure Collected (source : DocumentSource) (root : Uri) (done : List (Uri × Json))
    (r : Resolver) : Prop where
  sameRoot : r.root = root
  sameSource : r.source = source
  fetched : ∀ d ∈ done ++ r.pending, source.fetch d.1 = .ok d.2 ∧ d.1.text ≠ root.text ∧
    d.1.text ∈ r.asked
  distinct : ((done ++ r.pending).map fun d => d.1.text).Nodup
  inOrder : (done ++ r.pending).map (fun d => d.1.text) = r.asked.reverse

variable {source : DocumentSource} {done : List (Uri × Json)}

/-- Every document that was asked for was collected. -/
theorem Collected.complete {r : Resolver} (h : Collected source root done r) :
    ∀ text ∈ r.asked, ∃ d ∈ done ++ r.pending, d.1.text = text := by
  intro text htext
  rw [← List.mem_reverse, ← h.inOrder] at htext
  exact List.mem_map.1 htext

/-- The state before the first reference has collected nothing. -/
theorem collected_start (schema : Json) (base : Uri) (source : DocumentSource) :
    Collected source (Resolver.rootUri schema base) [] (.start schema base source) where
  sameRoot := rfl
  sameSource := rfl
  fetched := fun _ hd => nomatch hd
  distinct := List.nodup_nil
  inOrder := rfl

/-- Asking for a document keeps the collection in order. -/
theorem Collected.request {r s : Resolver} {document : Uri} {u : Unit}
    (h : Collected source root done r) (hrun : r.request document = (.ok u, s)) :
    Collected source root done s ∧ (document.text = root.text ∨ document.text ∈ s.asked) ∧
      ∀ text ∈ r.asked, text ∈ s.asked := by
  unfold Resolver.request at hrun
  split at hrun
  · next hknown =>
    cases hrun
    refine ⟨h, ?_, fun _ h => h⟩
    rcases Bool.or_eq_true_iff.1 hknown with hroot | hasked
    · exact Or.inl (h.sameRoot ▸ of_decide_eq_true hroot)
    · exact Or.inr (List.contains_iff_mem.1 hasked)
  · next hnew =>
    simp only [Bool.or_eq_true, not_or, Bool.not_eq_true] at hnew
    obtain ⟨hroot, hasked⟩ := hnew
    simp only at hrun
    split at hrun
    · next value hvalue =>
      cases hrun
      have hfresh : document.text ∉ r.asked := by simpa using hasked
      refine ⟨⟨h.sameRoot, h.sameSource, ?_, ?_, ?_⟩, Or.inr List.mem_cons_self,
        fun _ => List.mem_cons_of_mem _⟩
      · intro d hd
        rw [← List.append_assoc] at hd
        rcases List.mem_append.1 hd with hd | hd
        · obtain ⟨hfetch, hother, hmem⟩ := h.fetched d hd
          exact ⟨hfetch, hother, List.mem_cons_of_mem _ hmem⟩
        · cases List.mem_singleton.1 hd
          refine ⟨h.sameSource ▸ hvalue, fun heq => ?_, List.mem_cons_self⟩
          rw [Resolver.isRoot, decide_eq_false_iff_not, h.sameRoot] at hroot
          exact hroot heq
      · rw [← List.append_assoc, List.map_append, List.nodup_append]
        refine ⟨h.distinct, by simp, ?_⟩
        rintro text htext other hother rfl
        obtain ⟨d, hd, rfl⟩ := List.mem_map.1 htext
        rw [List.map_singleton, List.mem_singleton] at hother
        exact hfresh (hother ▸ (h.fetched d hd).2.2)
      · rw [← List.append_assoc, List.map_append, h.inOrder, List.reverse_cons]
        rfl
    · cases hrun

/-- **Resolving a reference** answers with the pointer to what it names. -/
theorem Collected.resolve {r s : Resolver} {reference site pointer : String}
    (h : Collected source root done r)
    (hrun : r.resolve reference scope site = (.ok pointer, s)) :
    ∃ document fragment, Resolver.target? scope reference = some (document, fragment) ∧
      Resolver.isPointer fragment = true ∧ pointer = pointerTo root document fragment ∧
      Collected source root done s ∧ (document.text = root.text ∨ document.text ∈ s.asked) ∧
      ∀ text ∈ r.asked, text ∈ s.asked := by
  unfold Resolver.resolve at hrun
  split at hrun
  · cases hrun
  · next document fragment htarget =>
    by_cases hpointer : Resolver.isPointer fragment = true
    · rw [if_neg (not_not.2 hpointer)] at hrun
      cases hrequest : r.request document with
      | mk answer asked =>
        rw [hrequest] at hrun
        cases answer with
        | error e => cases hrun
        | ok u =>
          obtain ⟨hcollected, hasked, hle⟩ := h.request hrequest
          cases hrun
          refine ⟨document, fragment, htarget, hpointer, ?_, hcollected, hasked, hle⟩
          rw [Resolver.documentPointer, Resolver.isRoot, hcollected.sameRoot, pointerTo]
          simp only [decide_eq_true_eq]
    · rw [if_pos hpointer] at hrun
      cases hrun

/-- The next document moves from those that wait to those that are done. -/
theorem Collected.next {r : Resolver} {first : Uri × Json} {rest : List (Uri × Json)}
    (h : Collected source root done r) (hpending : r.pending = first :: rest) :
    Collected source root (done ++ [first]) { r with pending := rest } := by
  have hsame : (done ++ [first]) ++ rest = done ++ r.pending := by
    rw [hpending, List.append_assoc, List.singleton_append]
  exact ⟨h.sameRoot, h.sameSource, hsame ▸ h.fetched, hsame ▸ h.distinct, hsame ▸ h.inOrder⟩

/-! ### The run for one document -/

/-- Progress keeps the sites, and what was asked for. -/
structure Progress.Le (s t : Progress) : Prop where
  sites : ∀ site ∈ s.sites, site ∈ t.sites
  asked : ∀ text ∈ s.resolver.asked, text ∈ t.resolver.asked

theorem Progress.Le.refl (s : Progress) : s.Le s := ⟨fun _ h => h, fun _ h => h⟩

theorem Progress.Le.trans {s t u : Progress} (hst : s.Le t) (htu : t.Le u) : s.Le u where
  sites := fun site h => htu.sites site (hst.sites site h)
  asked := fun text h => htu.asked text (hst.asked text h)

theorem Repointed.mono {path : List String} {before after : Json} {s t : Progress}
    (h : Repointed root scope path before after s) (hle : s.Le t) :
    Repointed root scope path before after t := by
  intro rest entries reference hat href
  obtain ⟨document, fragment, htarget, hpointer, hasked, htext, site, hsite, hspot⟩ := h hat href
  exact ⟨document, fragment, htarget, hpointer, hasked.imp_right (hle.asked _), htext, site,
    hle.sites site hsite, hspot⟩

/-- Rewriting one reference: it becomes a pointer, and its site is recorded. -/
theorem yields_rewriteOwn {s : Progress} (hs : Collected source root done s.resolver)
    (path : String) (entries : Dict Json) :
    Yields (rewriteOwn scope path entries) s fun written t =>
      Collected source root done t.resolver ∧ s.Le t ∧ written = repointOwn root scope entries ∧
        ∀ reference, reference? entries = some reference → ∃ document fragment,
          Resolver.target? scope reference = some (document, fragment) ∧
            Resolver.isPointer fragment = true ∧
            (document.text = root.text ∨ document.text ∈ t.resolver.asked) ∧
            ∃ site ∈ t.sites, site.pointer = path := by
  unfold rewriteOwn
  cases href : reference? entries with
  | none =>
    refine yields_pure.2 ⟨hs, .refl s, ?_, fun _ h => nomatch h⟩
    rw [repointOwn, href]
    rfl
  | some reference =>
    refine yields_bind.2 (yields_get.2 ?_)
    cases hresolve : s.resolver.resolve reference scope path with
    | mk answer resolver =>
      cases answer with
      | error e =>
        intro written t hrun
        cases hrun
      | ok pointer =>
        obtain ⟨document, fragment, htarget, hpointer, rfl, hcollected, hasked, hle⟩ :=
          hs.resolve hresolve
        intro written t hrun
        cases hrun
        refine ⟨hcollected, ⟨fun site hsite => List.mem_append_left _ hsite, hle⟩, ?_, ?_⟩
        · rw [repointOwn, href, Option.bind_some, htarget]
        · intro other hother
          cases hother
          exact ⟨document, fragment, htarget, hpointer, hasked, ⟨path, reference⟩,
            List.mem_append_right _ (List.mem_singleton_self _), rfl⟩

end Bundle

/-! ### Visiting subschemas -/

/-- A run over a list whose values are known brings the list of these values. -/
theorem eq_map_and_forall_of_forall₂ {α β : Type} {g : α → β} {R : α → Prop} {as : List α}
    {bs : List β} (h : List.Forall₂ (fun a b => b = g a ∧ R a) as bs) :
    bs = as.map g ∧ ∀ a ∈ as, R a := by
  induction h with
  | nil => exact ⟨rfl, fun a ha => nomatch ha⟩
  | cons hab _ ih =>
    obtain ⟨rfl, hrest⟩ := ih
    obtain ⟨rfl, ha⟩ := hab
    refine ⟨rfl, fun other hother => ?_⟩
    rcases List.mem_cons.1 hother with rfl | hother
    · exact ha
    · exact hrest other hother

/-- Runs over a list whose values are known, and of which each leaves something true. -/
theorem yields_mapM_map {σ α β ε : Type} {I : σ → Prop} {le : σ → σ → Prop} {g : α → β}
    {R : α → σ → Prop} (hrefl : ∀ s, le s s) (htrans : ∀ {s t u}, le s t → le t u → le s u)
    (hstable : ∀ {a s t}, le s t → R a s → R a t) {f : α → StateT σ (Except ε) β} {as : List α}
    (hf : ∀ a ∈ as, ∀ s, I s → Yields (f a) s fun b t => I t ∧ le s t ∧ b = g a ∧ R a t) {s : σ}
    (hs : I s) :
    Yields (as.mapM f) s fun bs t => I t ∧ le s t ∧ bs = as.map g ∧ ∀ a ∈ as, R a t := by
  have hboth : ∀ {a b s t}, le s t → b = g a ∧ R a s → b = g a ∧ R a t :=
    fun hle h => ⟨h.1, hstable hle h.2⟩
  refine (yields_mapM (Q := fun a b t => b = g a ∧ R a t) hrefl htrans hboth hf hs).mono
    fun bs t ⟨ht, hle, hall⟩ => ?_
  exact ⟨ht, hle, eq_map_and_forall_of_forall₂ hall⟩

namespace Subschema

/-- **What visits promise**: they keep an invariant, the states grow, and what a visit leaves of the
subschema behind a path stays. -/
structure Promise (σ : Type) where
  Inv : σ → Prop
  Le : σ → σ → Prop
  Leaves : List String → Json → σ → Prop
  refl : ∀ s, Le s s
  trans : ∀ {s t u}, Le s t → Le t u → Le s u
  stays : ∀ {path child s t}, Le s t → Leaves path child s → Leaves path child t

namespace Promise

variable {σ ε : Type} {p : Promise σ} {f : Json → Json}
  {visit : String → Json → StateT σ (Except ε) Json} {path keyword : String} {s : σ}

/-- Visiting any of these subschemas changes it by `f` and leaves what is promised. -/
def Visits (p : Promise σ) (f : Json → Json) (visit : String → Json → StateT σ (Except ε) Json)
    (path keyword : String) (children : List (List String × Json)) : Prop :=
  ∀ c ∈ children, ∀ s, p.Inv s → Yields (visit (Pointer.build path (keyword :: c.1)) c.2) s
    fun after t => p.Inv t ∧ p.Le s t ∧ after = f c.2 ∧ p.Leaves (keyword :: c.1) c.2 t

/-- The promise is kept for these subschemas by a run from `s` that answers `value`. -/
def Kept (p : Promise σ) (keyword : String) (children : List (List String × Json)) (value : Json)
    (s : σ) (after : Json) (t : σ) : Prop :=
  p.Inv t ∧ p.Le s t ∧ after = value ∧ ∀ c ∈ children, p.Leaves (keyword :: c.1) c.2 t

theorem yields_none (value : Json) (hs : p.Inv s) :
    Yields (pure value : StateT σ (Except ε) Json) s (p.Kept keyword [] value s) :=
  yields_pure.2 ⟨hs, p.refl s, rfl, fun _ hc => absurd hc List.not_mem_nil⟩

theorem yields_single {value : Json} (h : p.Visits f visit path keyword [([], value)])
    (hs : p.Inv s) :
    Yields (visit (Pointer.build path [keyword]) value) s
      (p.Kept keyword [([], value)] (f value) s) := by
  refine (h _ (List.mem_singleton_self _) s hs).mono fun after t hafter => ?_
  obtain ⟨ht, hle, heq, hleaves⟩ := hafter
  refine ⟨ht, hle, heq, fun c hc => ?_⟩
  rw [List.mem_singleton.1 hc]
  exact hleaves

theorem yields_items {items : List Json}
    (h : p.Visits f visit path keyword (items.zipIdx.map fun item => ([toString item.2], item.1)))
    (hs : p.Inv s) :
    Yields (do
        let items ← items.zipIdx.mapM fun item =>
          visit (Pointer.build path [keyword, toString item.2]) item.1
        return Json.array items) s
      (p.Kept keyword (items.zipIdx.map fun item => ([toString item.2], item.1))
        (.array (items.map f)) s) := by
  refine yields_bind.2 ((yields_mapM_map (g := fun item => f item.1)
    (R := fun item t => p.Leaves [keyword, toString item.2] item.1 t) p.refl p.trans p.stays
    (fun item hitem s hs => ?_) hs).mono fun after t hafter => yields_pure.2 ?_)
  · exact h _ (List.mem_map.2 ⟨item, hitem, rfl⟩) s hs
  · obtain ⟨ht, hle, rfl, hleaves⟩ := hafter
    refine ⟨ht, hle, ?_, fun c hc => ?_⟩
    · have hitems : items.zipIdx.map (fun item => f item.1) = items.map f := by
        rw [show (fun item : Json × Nat => f item.1) = f ∘ Prod.fst from rfl, ← List.map_map,
          List.zipIdx_map_fst]
      rw [hitems]
    · obtain ⟨item, hitem, rfl⟩ := List.mem_map.1 hc
      exact hleaves item hitem

theorem yields_entries {entries : Dict Json}
    (h : p.Visits f visit path keyword (entries.map fun entry => ([entry.1], entry.2)))
    (hs : p.Inv s) :
    Yields (do
        let entries ← List.mapM (fun entry => do
          let child ← visit (Pointer.build path [keyword, entry.1]) entry.2
          return (entry.1, child)) entries
        return Json.object entries) s
      (p.Kept keyword (entries.map fun entry => ([entry.1], entry.2))
        (.object (entries.map fun entry => (entry.1, f entry.2))) s) := by
  refine yields_bind.2 ((yields_mapM_map (g := fun entry => (entry.1, f entry.2))
    (R := fun entry t => p.Leaves [keyword, entry.1] entry.2 t) p.refl p.trans p.stays
    (fun entry hentry s hs => ?_) hs).mono fun after t hafter => yields_pure.2 ?_)
  · refine yields_bind.2 ((h _ (List.mem_map.2 ⟨entry, hentry, rfl⟩) s hs).mono
      fun after t hafter => yields_pure.2 ?_)
    obtain ⟨ht, hle, rfl, hleaves⟩ := hafter
    exact ⟨ht, hle, rfl, hleaves⟩
  · obtain ⟨ht, hle, rfl, hleaves⟩ := hafter
    refine ⟨ht, hle, rfl, fun c hc => ?_⟩
    obtain ⟨entry, hentry, rfl⟩ := List.mem_map.1 hc
    exact hleaves entry hentry

/-- **The subschemas of one keyword** are visited one after the other. -/
theorem yields_mapKeyword {value : Json}
    (h : p.Visits f visit path keyword (below keyword value)) (hs : p.Inv s) :
    Yields (mapKeyword visit path keyword value) s
      (p.Kept keyword (below keyword value) (change f keyword value) s) := by
  cases hrole : Keyword.role? keyword with
  | none =>
    simp only [mapKeyword, change, below, hrole]
    exact yields_none _ hs
  | some role =>
    cases role with
    | named =>
      cases value with
      | object entries =>
        simp only [mapKeyword, change, below, hrole] at h ⊢
        exact yields_entries h hs
      | _ =>
        simp only [mapKeyword, change, below, hrole]
        exact yields_none _ hs
    | single =>
      cases value with
      | object entries =>
        simp only [mapKeyword, change, below, hrole] at h ⊢
        exact yields_single h hs
      | _ =>
        simp only [mapKeyword, change, below, hrole]
        exact yields_none _ hs
    | listed =>
      cases value with
      | array items =>
        simp only [mapKeyword, change, below, hrole] at h ⊢
        exact yields_items h hs
      | _ =>
        simp only [mapKeyword, change, below, hrole]
        exact yields_none _ hs
    | either =>
      cases value with
      | array items =>
        simp only [mapKeyword, change, below, hrole] at h ⊢
        exact yields_items h hs
      | object entries =>
        simp only [mapKeyword, change, below, hrole] at h ⊢
        exact yields_single h hs
      | _ =>
        simp only [mapKeyword, change, below, hrole]
        exact yields_none _ hs

/-- **The subschemas of an object** are visited keyword by keyword. -/
theorem yields_mapM {entries : Dict Json}
    (h : ∀ entry ∈ entries, p.Visits f visit path entry.1 (below entry.1 entry.2))
    (hs : p.Inv s) :
    Yields (Subschema.mapM visit path entries) s fun after t => p.Inv t ∧ p.Le s t ∧
      after = entries.map (fun entry => (entry.1, change f entry.1 entry.2)) ∧
        ∀ entry ∈ entries, ∀ c ∈ below entry.1 entry.2, p.Leaves (entry.1 :: c.1) c.2 t := by
  unfold Subschema.mapM
  have hstays : ∀ {entry : String × Json} {s t : σ}, p.Le s t →
      (∀ c ∈ below entry.1 entry.2, p.Leaves (entry.1 :: c.1) c.2 s) →
      ∀ c ∈ below entry.1 entry.2, p.Leaves (entry.1 :: c.1) c.2 t :=
    fun hle hleaves c hc => p.stays hle (hleaves c hc)
  refine yields_mapM_map (g := fun entry : String × Json => (entry.1, change f entry.1 entry.2))
    (R := fun (entry : String × Json) (t : σ) =>
      ∀ c ∈ below entry.1 entry.2, p.Leaves (entry.1 :: c.1) c.2 t)
    p.refl p.trans hstays (fun entry hentry s hs => ?_) hs
  refine yields_bind.2 ((yields_mapKeyword (h entry hentry) hs).mono
    fun after t hafter => yields_pure.2 ?_)
  obtain ⟨ht, hle, rfl, hleaves⟩ := hafter
  exact ⟨ht, hle, rfl, hleaves⟩

end Promise
end Subschema

namespace Bundle

variable {root scope : Uri} {source : DocumentSource} {done : List (Uri × Json)}

/-- What rewriting an object at `path` promises of its subschemas. -/
def promise (root scope : Uri) (source : DocumentSource) (done : List (Uri × Json))
    (path : List String) (levels : Nat) : Subschema.Promise Progress where
  Inv := fun t => Collected source root done t.resolver
  Le := Progress.Le
  Leaves := fun below child =>
    Repointed root scope (path ++ below) child (repoint root scope levels child)
  refl := Progress.Le.refl
  trans := Progress.Le.trans
  stays := fun hle h => Repointed.mono h hle

/-- **The promise for an object** is that for its own reference and those for its subschemas. -/
theorem repointed_object {levels : Nat} {path : String} {entries : Dict Json} {t : Progress}
    (hown : ∀ reference, reference? entries = some reference → ∃ document fragment,
      Resolver.target? scope reference = some (document, fragment) ∧
        Resolver.isPointer fragment = true ∧
        (document.text = root.text ∨ document.text ∈ t.resolver.asked) ∧
        ∃ site ∈ t.sites, site.pointer = path)
    (hbelow : ∀ entry ∈ repointOwn root scope entries,
      ∀ c ∈ Subschema.below entry.1 entry.2,
        (promise root scope source done (Pointer.split path) levels).Leaves
          (entry.1 :: c.1) c.2 t) :
    Repointed root scope (Pointer.split path) (.object entries)
      (repoint root scope (levels + 1) (.object entries)) t := by
  intro rest target reference hat href
  cases hat with
  | here =>
    obtain ⟨document, fragment, htarget, hpointer, hasked, site, hsite, rfl⟩ := hown reference href
    refine ⟨document, fragment, htarget, hpointer, hasked, ?_, site, hsite, [],
      (List.append_nil _).symm, .nil _⟩
    rw [repoint]
    refine textAt_iff.2 ⟨_, rfl, ?_⟩
    rw [reference?, Dict.get?_mapValues (Subschema.change _), repointOwn, href, Option.bind_some,
      htarget]
    simp only
    rw [Dict.get?_insert_self, Option.map_some, Subschema.change_ref]
    rfl
  | @under _ keyword value child _ start rest hvalue hchild hat =>
    have hne := hchild.ne_ref
    obtain ⟨visited, hvisited, hspot⟩ := hchild.exists_below
    have hmem : (keyword, value) ∈ repointOwn root scope entries :=
      (mem_repointOwn hne).2 (Dict.mem_of_get? hvalue)
    obtain ⟨document, fragment, htarget, hpointer, hasked, htext, site, hsite, other, hsplit,
      hsame⟩ := hbelow _ hmem _ hvisited hat href
    refine ⟨document, fragment, htarget, hpointer, hasked, ?_, site, hsite,
      keyword :: (visited ++ other), ?_, ?_⟩
    · have hstep : Pointer.follow? (repoint root scope (levels + 1) (.object entries))
          (keyword :: start) = some (repoint root scope levels child) := by
        rw [Pointer.follow?, get?_repoint levels entries hne, hvalue]
        exact hchild.follow?_change _
      unfold TextAt at htext ⊢
      rw [← List.cons_append, List.append_assoc, Pointer.follow?_append, hstep]
      exact htext
    · rw [hsplit, List.append_assoc, List.cons_append]
    · exact .key hvalue (hspot.append (hspot.follow?_eq ▸ hchild.follow?) hsame)

/-- **Rewriting a document is repointing it**, and keeps its promise. -/
theorem yields_rewrite (limit levels : Nat) {path : String} {value : Json}
    (hkeys : value.hasDistinctKeys = true) {s : Progress}
    (hs : Collected source root done s.resolver) :
    Yields (rewrite limit scope levels path value) s fun after t =>
      Collected source root done t.resolver ∧ s.Le t ∧ after = repoint root scope levels value ∧
        Repointed root scope (Pointer.split path) value after t := by
  induction levels generalizing path value s with
  | zero =>
    rw [rewrite]
    exact yields_throw
  | succ levels ih =>
    cases value with
    | object entries =>
      obtain ⟨hnodup, hentries⟩ := Json.hasDistinctKeys_object.1 hkeys
      rw [rewrite]
      refine yields_bind.2 ((yields_rewriteOwn hs path entries).mono fun written t hrewritten => ?_)
      obtain ⟨ht, hst, rfl, hown⟩ := hrewritten
      -- the visits below go over the entries with the reference as a pointer
      have hvisits : ∀ entry ∈ repointOwn root scope entries,
          (promise root scope source done (Pointer.split path) levels).Visits
            (repoint root scope levels) (rewrite limit scope levels) path entry.1
            (Subschema.below entry.1 entry.2) := by
        intro entry hentry c hc s hs
        have hne : entry.1 ≠ Keyword.ref := by
          rintro heq
          rw [heq, Subschema.below_ref] at hc
          cases hc
        have hold : entry ∈ entries := (mem_repointOwn hne).1 hentry
        have hchild : c.2.hasDistinctKeys = true :=
          Pointer.hasDistinctKeys_of_follow? (hentries entry hold)
            (Subschema.leads_of_mem_below (hentries entry hold) hc).follow?
        refine (ih hchild hs).mono fun after t hafter => ?_
        obtain ⟨ht, hle, rfl, hrepointed⟩ := hafter
        rw [Pointer.split_build] at hrepointed
        exact ⟨ht, hle, rfl, hrepointed⟩
      refine yields_bind.2 ((Subschema.Promise.yields_mapM hvisits ht).mono
        fun after u hvisited => yields_pure.2 ?_)
      obtain ⟨hu, htu, rfl, hbelow⟩ := hvisited
      have hown' : ∀ reference, reference? entries = some reference → ∃ document fragment,
          Resolver.target? scope reference = some (document, fragment) ∧
            Resolver.isPointer fragment = true ∧
            (document.text = root.text ∨ document.text ∈ u.resolver.asked) ∧
            ∃ site ∈ u.sites, site.pointer = path := by
        intro reference href
        obtain ⟨document, fragment, htarget, hpointer, hasked, site, hsite, heq⟩ :=
          hown reference href
        exact ⟨document, fragment, htarget, hpointer, hasked.imp_right (htu.asked _), site,
          htu.sites site hsite, heq⟩
      have hrepointed : Repointed root scope (Pointer.split path) (.object entries)
          (repoint root scope (levels + 1) (.object entries)) u := repointed_object hown' hbelow
      rw [repoint] at hrepointed ⊢
      exact ⟨hu, hst.trans htu, rfl, hrepointed⟩
    | _ =>
      rw [rewrite]
      · refine yields_pure.2 ⟨hs, .refl s, ?_, ?_⟩
        · rw [repoint]
          intro entries h
          cases h
        · intro rest entries reference hat
          cases hat
      · intro entries h
        cases h

/-! ### Where sites stand -/

theorem yields_rewriteOwn_sites (path : String) (entries : Dict Json) (s : Progress) :
    Yields (rewriteOwn scope path entries) s fun _ t =>
      ∀ site ∈ t.sites, site ∈ s.sites ∨
        site.pointer = path ∧ reference? entries = some site.reference := by
  unfold rewriteOwn
  cases href : reference? entries with
  | none => exact yields_pure.2 fun site hsite => Or.inl hsite
  | some reference =>
    refine yields_bind.2 (yields_get.2 ?_)
    cases s.resolver.resolve reference scope path with
    | mk answer resolver =>
      cases answer with
      | error e =>
        intro written t hrun
        cases hrun
      | ok pointer =>
        intro written t hrun
        cases hrun
        intro site hsite
        rcases List.mem_append.1 hsite with hold | hnew
        · exact Or.inl hold
        · cases List.mem_singleton.1 hnew
          exact Or.inr ⟨rfl, rfl⟩

/-- A site of a subschema stands in the object that holds it. -/
theorem StandsIn.under {start : List String} {entries : Dict Json} {keyword : String}
    {value child : Json} {path : List String} {site : Site}
    (hvalue : Dict.get? entries keyword = some value)
    (hchild : Subschema.Leads keyword value path child) (hplain : Pointer.Plain value path)
    (h : StandsIn (start ++ keyword :: path) child site) :
    StandsIn start (.object entries) site := by
  obtain ⟨rest, inner, hat, href, hsplit, hrest⟩ := h
  refine ⟨keyword :: (path ++ rest), inner, .under hvalue hchild hat, href, ?_,
    .key hvalue (hplain.append hchild.follow? hrest)⟩
  rw [hsplit, List.append_assoc, List.cons_append]

/-- **The sites that rewriting a document adds** stand in it. -/
theorem yields_rewrite_sites (limit levels : Nat) {path : String} {value : Json}
    (hkeys : value.hasDistinctKeys = true) {s : Progress}
    (hs : Collected source root done s.resolver) :
    Yields (rewrite limit scope levels path value) s fun _ t =>
      ∀ site ∈ t.sites, site ∈ s.sites ∨ StandsIn (Pointer.split path) value site := by
  induction levels generalizing path value s with
  | zero =>
    rw [rewrite]
    exact yields_throw
  | succ levels ih =>
    cases value with
    | object entries =>
      obtain ⟨hnodup, hentries⟩ := Json.hasDistinctKeys_object.1 hkeys
      let here : Subschema.Promise Progress :=
        { Inv := fun t => Collected source root done t.resolver ∧ ∀ site ∈ t.sites,
            site ∈ s.sites ∨ StandsIn (Pointer.split path) (.object entries) site
          Le := Progress.Le
          Leaves := fun _ _ _ => True
          refl := Progress.Le.refl
          trans := Progress.Le.trans
          stays := fun _ h => h }
      have hvisits : ∀ entry ∈ repointOwn root scope entries,
          here.Visits (repoint root scope levels) (rewrite limit scope levels) path entry.1
            (Subschema.below entry.1 entry.2) := by
        intro entry hentry c hc t ht
        have hne : entry.1 ≠ Keyword.ref := by
          rintro heq
          rw [heq, Subschema.below_ref] at hc
          cases hc
        have hold : entry ∈ entries := (mem_repointOwn hne).1 hentry
        have hleads := Subschema.leads_of_mem_below (hentries entry hold) hc
        have hchild : c.2.hasDistinctKeys = true :=
          Pointer.hasDistinctKeys_of_follow? (hentries entry hold) hleads.follow?
        intro after u hrun
        obtain ⟨hu, htu, hafter, -⟩ := yields_rewrite limit levels hchild ht.1 after u hrun
        refine ⟨⟨hu, fun site hsite => ?_⟩, htu, hafter, trivial⟩
        rcases ih hchild ht.1 after u hrun site hsite with hearlier | hbelow
        · exact ht.2 site hearlier
        · rw [Pointer.split_build] at hbelow
          exact Or.inr (hbelow.under (Dict.get?_of_mem hnodup hold) hleads
            (Subschema.plain_of_mem_below (hentries entry hold) hc))
      rw [rewrite]
      refine yields_bind.2 fun written t hrun => ?_
      obtain ⟨ht, -, rfl, -⟩ := yields_rewriteOwn hs path entries written t hrun
      have hown := yields_rewriteOwn_sites path entries s _ t hrun
      refine yields_bind.2 ((Subschema.Promise.yields_mapM hvisits ⟨ht, fun site hsite => ?_⟩).mono
        fun after u hafter => yields_pure.2 hafter.1.2)
      refine (hown site hsite).imp_right fun ⟨hpointer, href⟩ => ?_
      exact ⟨[], entries, .here _, href, by rw [hpointer, List.append_nil], .nil _⟩
    | _ =>
      rw [rewrite]
      · exact yields_pure.2 fun site hsite => Or.inl hsite
      · intro entries h
        cases h

end Bundle
end SchemaTypings
