import SchemaTypings.Compile
import SchemaTypings.Proofs.LinkedPlaces
import SchemaTypings.Proofs.Meaning

/-! # Where references are linked to

A reference that stands at a schema is linked to what it means in the document that holds it.
Elsewhere a reference is never rewritten: it is read in the bundle, whose pointers start at the root,
and so a reference inside another document may lead into the root.
-/
namespace SchemaTypings

open SchemaTypings.Bundle (EndsAt TextAt bareRef?)

namespace SchemaGraph

/-- **The place that a reference is linked to.**  A bare reference is linked to the node of its
place; one beside other keywords, to the object whose keywords it takes. -/
def Linked.target? (root : Json) (l : Linked) (pointer : String) : Option (List String) := do
  let value ← Pointer.resolve? root pointer
  match bareRef? value with
  | some _ => (l.byPointer.lookup pointer).map l.place
  | none => (value.object?.bind (inherited? root)).map fun taken => Pointer.split taken.2

/-- After the walk every place reached has the node that stands for it. -/
theorem placed_of_walk {b : Bundle} {o : Options} {id : SchemaId} {l : Linked}
    (hkeys : b.schema.hasDistinctKeys = true) (h : walk b o = .ok (id, l)) :
    l.Placed b.schema := by
  have hstart : Linked.Placed b.schema ⟨#[], [], []⟩ := fun pointer id hid => nomatch hid
  exact (reaches_linkNode hkeys o.maxDepth (o.maxDepth + 1) [] "#" b.schema {} _ rfl hstart _ _ h).1

end SchemaGraph

namespace Library

open SchemaGraph

/-- **The library that bundling a schema gathers**: its root is the schema, and the source gave the
others. -/
structure GatheredFor (lib : Library) (schema : Json) (o : Options) (source : DocumentSource) :
    Prop where
  root : ∃ base, o.base? = .ok base ∧ lib.root = Resolver.rootUri schema base
  schema : lib.schema = schema
  fetched : ∀ d ∈ lib.others, source.fetch d.1 = .ok d.2

/-- **A chain goes astray** where it comes to nothing, or to a bare reference that is not followed
as it is meant. -/
inductive Strays (lib : Library) : Place → Prop
  | gone {p : Place} (h : lib.value? p = none) : Strays lib p
  | astray {p : Place} {value : Json} {reference : String} (hvalue : lib.value? p = some value)
      (hbare : bareRef? value = some reference) (h : ¬ lib.FollowedAsMeant p reference) :
      Strays lib p
  | next {p q : Place} {value : Json} {reference : String} (hvalue : lib.value? p = some value)
      (hbare : bareRef? value = some reference) (hfollowed : lib.FollowedAsMeant p reference)
      (hnamed : lib.named? p reference = some q) (h : Strays lib q) : Strays lib p

/-- A bare reference leads from one place to another. -/
def Link (lib : Library) (passes : Place → String → Prop) (p q : Place) : Prop :=
  ∃ value reference, lib.value? p = some value ∧ bareRef? value = some reference ∧
    passes p reference ∧ lib.named? p reference = some q

/-- The end of the chain is written into a reference at a schema, and bare references elsewhere are
followed when they are linked.  A reference beside other keywords elsewhere goes one step only. -/
def GoesToEnd (lib : Library) (p q last : Place) : Prop :=
  lib.IsSchema p ∨ ((lib.value? p).bind bareRef?).isSome = true ∨ q = last

variable {lib : Library} {source : DocumentSource} {levels : Nat} {whole settled : Json}

theorem isSchema_of_path_eq_nil {p : Place} (h : lib.path p = []) : lib.IsSchema p := by
  unfold path at h
  split at h
  · next hroot =>
    refine ⟨(lib.root, lib.schema), lib.schema, hroot ▸ find?_root, ?_⟩
    rw [h]
    exact .here _
  · cases h

/-- **What a reference is linked to** lies where it is meant to. -/
theorem Bundles.target?_eq (h : lib.Bundles source levels whole settled)
    (hreserved : lib.schema.field? Keyword.external = none) {l : Linked} (hl : l.Placed settled)
    {pointer : String} {id : SchemaId} {p q last : Place} {reference : String}
    (hid : l.byPointer.lookup pointer = some id) (hpointer : Pointer.split pointer = lib.path p)
    (hreference : lib.reference? p = some reference) (hread : lib.ReadAsMeant p reference)
    (hnamed : lib.named? p reference = some q)
    (hdenotes : lib.Denotes lib.FollowedAsMeant q last) (hend : lib.GoesToEnd p q last) :
    l.target? settled pointer = some (lib.path last) := by
  obtain ⟨entries, hobject, -⟩ := Option.bind_eq_some_iff.1 hreference
  obtain ⟨value, hvalue, -⟩ := Option.bind_eq_some_iff.1 hobject
  have hopen := open_of_value? hreserved hvalue
  obtain ⟨t, ht, hsplit⟩ := h.exists_textAt hopen hreference hread hnamed
  have hchain : EndsAt whole (Pointer.split t) (lib.path last) :=
    hsplit ▸ h.endsAt hreserved hdenotes
  obtain ⟨held, hheld, hkind⟩ := h.holds.exists_value hopen hvalue
  obtain ⟨final, hfinal, halike⟩ := h.alike.exists_follow? hheld
  unfold Linked.target?
  rw [Pointer.resolve?, hpointer, hfinal, Option.bind_eq_bind, Option.bind_some]
  cases hbare : bareRef? final with
  | some target =>
    -- the walk followed the chain, which ends where it did before references were settled
    obtain ⟨target', hbare', -⟩ := halike.bareRef?_left hbare
    have hsame := ht.unique (textAt_of_bareRef? hheld hbare')
    have hends : EndsAt settled (lib.path p) (lib.path last) :=
      (Bundle.endsAt_iff_of_alike h.alike).2 (.next hheld hbare' (hsame ▸ hchain))
    simp only [hid, Option.map_some]
    rw [(hl pointer id hid).place _ (hpointer ▸ hends)]
  | none =>
    obtain ⟨t', ht', hrelated⟩ := ht.right h.alike
    have hsettled : lib.IsSchema p → Pointer.split t' = lib.path last := by
      intro hschema
      obtain ⟨s, s', hs, hs', hskips⟩ := h.settles hschema hreference
      rw [ht.unique hs] at hskips
      rw [ht'.unique hs'] at hskips
      exact hskips.unique hchain
    have hlast : Pointer.split t' = lib.path last := by
      rcases hend with hschema | hbareP | rfl
      · exact hsettled hschema
      · obtain ⟨target, htarget⟩ := Option.isSome_iff_exists.1 hbareP
        rw [hvalue, Option.bind_some] at htarget
        rcases hkind with hsame | ⟨hroot, -, -⟩
        · obtain ⟨target', htarget', -⟩ := hsame.bareRef?_right htarget
          obtain ⟨target'', htarget'', -⟩ := halike.bareRef?_right htarget'
          cases hbare.symm.trans htarget''
        · exact hsettled (isSchema_of_path_eq_nil hroot)
      · rcases hrelated with rfl | hskips
        · exact hsplit
        · exact hskips.unique hchain
    obtain ⟨object, hobject', href⟩ := Bundle.textAt_iff.1 ht'
    rw [hfinal] at hobject'
    cases hobject'
    simp only [Json.object?, Option.bind_some, inherited?, href, Option.map_some]
    rw [← hlast]
    split <;> rfl

/-- **Elsewhere a bare reference is read in the bundle**, whatever its document means by it. -/
theorem Bundles.target?_elsewhere (h : lib.Bundles source levels whole settled)
    (hreserved : lib.schema.field? Keyword.external = none) {l : Linked} (hl : l.Placed settled)
    {pointer : String} {id : SchemaId} {p : Place} {reference : String}
    (hid : l.byPointer.lookup pointer = some id) (hpointer : Pointer.split pointer = lib.path p)
    (hschema : ¬ lib.IsSchema p) (hbare : (lib.value? p).bind bareRef? = some reference)
    {place : List String} (hends : EndsAt settled (Pointer.split reference) place) :
    l.target? settled pointer = some place := by
  obtain ⟨value, hvalue, hvalueBare⟩ := Option.bind_eq_some_iff.1 hbare
  have hopen := open_of_value? hreserved hvalue
  have htext := h.textAt_elsewhere hopen hschema (reference?_of_bareRef? hvalue hvalueBare)
  obtain ⟨held, hheld, hsame | ⟨hroot, -, -⟩⟩ := h.holds.exists_value hopen hvalue
  · obtain ⟨t, ht, -⟩ := hsame.bareRef?_right hvalueBare
    have heq := htext.unique (textAt_of_bareRef? hheld ht)
    subst heq
    obtain ⟨final, hfinal, halike⟩ := h.alike.exists_follow? hheld
    obtain ⟨t', ht', -⟩ := halike.bareRef?_right ht
    have hchain : EndsAt settled (lib.path p) place :=
      (Bundle.endsAt_iff_of_alike h.alike).2
        (.next hheld ht ((Bundle.endsAt_iff_of_alike h.alike).1 hends))
    unfold Linked.target?
    rw [Pointer.resolve?, hpointer, hfinal, Option.bind_eq_bind, Option.bind_some]
    simp only [ht', hid, Option.map_some]
    rw [(hl pointer id hid).place _ (hpointer ▸ hchain)]
  · exact absurd (isSchema_of_path_eq_nil hroot) hschema

/-- Where nothing goes astray, a bare reference leads to a place from which nothing does. -/
theorem Shows.link_of_bareRef? (h : lib.Shows levels whole) {p : Place} (hstrays : ¬ lib.Strays p)
    {value : Json} {reference : String} (hvalue : lib.value? p = some value)
    (hbare : bareRef? value = some reference) :
    ∃ q, lib.Link lib.FollowedAsMeant p q ∧ ¬ lib.Strays q := by
  have hfollowed : lib.FollowedAsMeant p reference :=
    not_not.1 fun hastray => hstrays (.astray hvalue hbare hastray)
  obtain ⟨q, hnamed⟩ : ∃ q, lib.named? p reference = some q := by
    rcases hfollowed.1 with hschema | hsame
    · obtain ⟨q, hq, -⟩ := h.named hschema (reference?_of_bareRef? hvalue hbare)
      exact ⟨q, hq⟩
    · obtain ⟨q, hq, -⟩ := Option.map_eq_some_iff.1 hsame
      exact ⟨q, hq⟩
  exact ⟨q, ⟨value, reference, hvalue, hbare, hfollowed, hnamed⟩,
    fun hq => hstrays (.next hvalue hbare hfollowed hnamed hq)⟩

/-- **What is meant is in the bundle**: a reference that is followed as it is meant is bare there,
too, and points to what it names. -/
theorem Shows.bareRef?_of_link (h : lib.Shows levels whole)
    (hreserved : lib.schema.field? Keyword.external = none) {p q : Place}
    (hlink : lib.Link lib.FollowedAsMeant p q) :
    ∃ held target, Pointer.follow? whole (lib.path p) = some held ∧ bareRef? held = some target ∧
      Pointer.split target = lib.path q := by
  obtain ⟨value, reference, hvalue, hbare, hfollowed, hnamed⟩ := hlink
  have hopen := open_of_value? hreserved hvalue
  obtain ⟨t, ht, hsplit⟩ :=
    h.exists_textAt hopen (reference?_of_bareRef? hvalue hbare) hfollowed.1 hnamed
  obtain ⟨held, hheld, halike | ⟨hroot, hothers, -⟩⟩ := h.holds.exists_value hopen hvalue
  · obtain ⟨t', hbare', -⟩ := halike.bareRef?_right hbare
    cases ht.unique (textAt_of_bareRef? hheld hbare')
    exact ⟨held, t, hheld, hbare', hsplit⟩
  · exact absurd (hfollowed.2 hroot) hothers

/-- **What is in the bundle is meant**, from a place where nothing goes astray. -/
theorem Shows.exists_link (h : lib.Shows levels whole)
    (hreserved : lib.schema.field? Keyword.external = none) {p : Place} (hstrays : ¬ lib.Strays p)
    {held : Json} {target : String} (hheld : Pointer.follow? whole (lib.path p) = some held)
    (hbareHeld : bareRef? held = some target) :
    ∃ q, lib.Link lib.FollowedAsMeant p q ∧ ¬ lib.Strays q ∧
      Pointer.split target = lib.path q := by
  obtain ⟨value, hvalue⟩ := Option.ne_none_iff_exists'.1 fun hgone => hstrays (.gone hgone)
  obtain ⟨reference, hbare⟩ : ∃ reference, bareRef? value = some reference := by
    obtain ⟨held', hheld', halike | ⟨-, -, hnone⟩⟩ :=
      h.holds.exists_value (open_of_value? hreserved hvalue) hvalue
    · cases hheld.symm.trans hheld'
      exact (halike.bareRef?_left hbareHeld).imp fun _ h => h.1
    · cases hheld.symm.trans hheld'
      cases hnone.symm.trans hbareHeld
  obtain ⟨q, hlink, hq⟩ := h.link_of_bareRef? hstrays hvalue hbare
  obtain ⟨held', target', hheld', hbare', hsplit⟩ := h.bareRef?_of_link hreserved hlink
  cases hheld.symm.trans hheld'
  cases hbareHeld.symm.trans hbare'
  exact ⟨q, hlink, hq, hsplit⟩

/-- **A chain that ends in the bundle** is the one that is meant, or goes astray. -/
theorem Shows.denotes_or_strays (h : lib.Shows levels whole)
    (hreserved : lib.schema.field? Keyword.external = none) {p : Place} {start last : List String}
    (hends : EndsAt whole start last) (hstart : start = lib.path p) :
    lib.Strays p ∨ ∃ last, lib.Denotes lib.FollowedAsMeant p last := by
  refine or_iff_not_imp_left.2 fun hstrays => ?_
  induction hends generalizing p with
  | here hheld hnone =>
    obtain ⟨value, hvalue⟩ := Option.ne_none_iff_exists'.1 fun hgone => hstrays (.gone hgone)
    refine ⟨p, .here hvalue (Option.eq_none_iff_forall_ne_some.2 fun reference hbare => ?_)⟩
    obtain ⟨q, hlink, -⟩ := h.link_of_bareRef? hstrays hvalue hbare
    obtain ⟨held, target, hheld', hbare', -⟩ := h.bareRef?_of_link hreserved hlink
    rw [hstart] at hheld
    cases hheld.symm.trans hheld'
    cases hnone.symm.trans hbare'
  | next hheld hbareHeld _ ih =>
    rw [hstart] at hheld
    obtain ⟨q, hlink, hq, hsplit⟩ := h.exists_link hreserved hstrays hheld hbareHeld
    obtain ⟨value, reference, hvalue, hbare, hfollowed, hnamed⟩ := hlink
    obtain ⟨last, hlast⟩ := ih hsplit hq
    exact ⟨last, .next hvalue hbare hfollowed hnamed hlast⟩

end Library

open SchemaGraph in
/-- **References are linked to what they mean**, wherever the walk comes to one that is read as it
is meant, up to the end of the bare references behind it.  For a reference at a schema this is all
there is: it names a place in a document of the library, and from there the chain ends or goes
astray.  Elsewhere a bare reference is read in the bundle. -/
theorem reference_links_as_meant {schema : Json} {o : Options} {source : DocumentSource} {b : Bundle}
    {g : SchemaGraph} (hschema : schema.hasDistinctKeys = true)
    (hsource : ∀ uri value, source.fetch uri = .ok value → value.hasDistinctKeys = true)
    (hreserved : schema.field? Keyword.external = none)
    (hbundle : Bundle.ofSchema schema o source = .ok b) (hgraph : SchemaGraph.ofBundle b o = .ok g) :
    ∃ (lib : Library) (l : Linked), lib.GatheredFor schema o source ∧
      walk b o = .ok (g.root, l) ∧ l.nodes = g.nodes ∧
      ∀ {pointer : String} {id : SchemaId} (p : Place) (reference : String),
        l.byPointer.lookup pointer = some id → Pointer.split pointer = lib.path p →
        lib.reference? p = some reference →
        (∀ q last, lib.ReadAsMeant p reference → lib.named? p reference = some q →
          lib.Denotes lib.FollowedAsMeant q last → lib.GoesToEnd p q last →
          l.target? b.schema pointer = some (lib.path last)) ∧
        (lib.IsSchema p → ∃ q, lib.named? p reference = some q ∧
          (lib.find? q.document).isSome = true ∧
          (lib.Strays q ∨ ∃ last, lib.Denotes lib.FollowedAsMeant q last)) ∧
        (¬ lib.IsSchema p → (lib.value? p).bind bareRef? = some reference →
          ∀ place, EndsAt b.schema (Pointer.split reference) place →
            l.target? b.schema pointer = some place) := by
  obtain ⟨base, hbase, lib, whole, hroot, rfl, h⟩ :=
    Library.exists_of_ofSchema hschema hsource hbundle
  obtain ⟨l, hwalk, hnodes, -⟩ := exists_walk hgraph
  have hplaced : l.Placed b.schema := placed_of_walk (h.alike.hasDistinctKeys h.keys) hwalk
  refine ⟨lib, l, ⟨⟨base, hbase, hroot⟩, rfl, h.fetched⟩, hwalk, hnodes, ?_⟩
  intro pointer id p reference hid hpointer hreference
  refine ⟨fun q last hread hnamed hdenotes hend => ?_, fun hplace => ?_,
    fun hplace hbare place hends => ?_⟩
  · exact h.target?_eq hreserved hplaced hid hpointer hreference hread hnamed hdenotes hend
  · obtain ⟨q, hnamed, hfound, t, ht, hsplit⟩ := h.named hplace hreference
    obtain ⟨s, s', hs, -, hskips⟩ := h.settles hplace hreference
    rw [ht.unique hs] at hskips
    exact ⟨q, hnamed, hfound, h.denotes_or_strays hreserved hskips hsplit⟩
  · exact h.target?_elsewhere hreserved hplaced hid hpointer hplace hbare hends

/-- A root whose property leads to a definition of another document. -/
def withDefinitions : Json :=
  .object [("properties", .object [("a", .object [("$ref", .string "other.json#/definitions/X")])])]

/-- The other document: one definition uses the other. -/
def otherDefinitions : Json :=
  .object [("definitions", .object [
    ("X", .object [("properties", .object [("p", .object [("$ref", .string "#/definitions/D")])])]),
    ("D", .object [("type", .string "string")])])]

/-- The text of the URI of the other document. -/
def otherText : String := "file:///other.json"

/-- The source that has the other document. -/
def otherSource : DocumentSource := .ofDocuments [(otherText, otherDefinitions)]

theorem DocumentSource.fetch_ofDocuments {documents : Dict Json} {uri : Uri} {value : Json} :
    (DocumentSource.ofDocuments documents).fetch uri = .ok value ↔
      documents.get? uri.text = some value := by
  have hanswer : (DocumentSource.ofDocuments documents).answers.get? uri.text =
      (documents.get? uri.text).map Except.ok :=
    Dict.get?_mapValues (fun _ => Except.ok) documents uri.text
  rw [DocumentSource.fetch, hanswer]
  cases documents.get? uri.text with
  | none =>
    constructor <;> intro h <;> cases h
  | some other =>
    constructor
    · exact fun h => congrArg some (Except.ok.inj h)
    · exact fun h => congrArg Except.ok (Option.some.inj h)

theorem hasDistinctKeys_of_otherSource {uri : Uri} {value : Json}
    (h : otherSource.fetch uri = .ok value) : value.hasDistinctKeys = true := by
  have hmem := Dict.mem_of_get? (DocumentSource.fetch_ofDocuments.1 h)
  rw [(Prod.mk.inj (List.mem_singleton.1 hmem)).2]
  decide

/-- The URI of a root without `$id`, when no base is given. -/
def defaultRoot : Uri :=
  { Uri.Reader.emptyFile with path := .rooted "/schema.json" }

theorem Library.GatheredFor.root_eq {lib : Library} {schema : Json} {source : DocumentSource}
    (h : lib.GatheredFor schema {} source) (hid : schema.field? "$id" = none) :
    lib.root = defaultRoot := by
  obtain ⟨base, hbase, hroot⟩ := h.root
  have hdefault : ((({} : Options).base?).toOption.any fun uri => uri = defaultRoot) = true := by
    decide +kernel
  obtain ⟨uri, huri, heq⟩ := exists_ok_of_any hdefault
  cases hbase.symm.trans huri
  rw [hroot, Resolver.rootUri, hid, of_decide_eq_true heq]
  decide

open SchemaGraph in
/-- Inside the other document `#/definitions/D` is linked to the definition there. -/
theorem reference_links_as_meant_otherDefinitions :
    ∃ b g l, Bundle.ofSchema withDefinitions {} otherSource = .ok b ∧
      SchemaGraph.ofBundle b {} = .ok g ∧ walk b {} = .ok (g.root, l) ∧
      l.target? b.schema "#/$external/file:~1~1~1other.json/definitions/X/properties/p" =
        some [Keyword.external, otherText, "definitions", "D"] := by
  have hrun : (Bundle.ofSchema withDefinitions {} otherSource).toOption.any (fun b =>
      (SchemaGraph.ofBundle b {}).toOption.any fun g => (walk b {}).toOption.any fun w =>
        (w.2.byPointer.lookup "#/properties/a").isSome &&
          (w.2.byPointer.lookup
            "#/$external/file:~1~1~1other.json/definitions/X/properties/p").isSome) = true := by
    decide +kernel
  obtain ⟨b, hb, hrun⟩ := exists_ok_of_any hrun
  obtain ⟨g, hg, hrun⟩ := exists_ok_of_any hrun
  obtain ⟨⟨root, l⟩, hl, hreached⟩ := exists_ok_of_any hrun
  obtain ⟨hreachedA, hreachedP⟩ := Bool.and_eq_true_iff.1 hreached
  obtain ⟨idA, hidA⟩ := Option.isSome_iff_exists.1 hreachedA
  obtain ⟨id, hid⟩ := Option.isSome_iff_exists.1 hreachedP
  obtain ⟨lib, l', hlib, hwalk, -, hall⟩ :=
    reference_links_as_meant (by decide) (fun _ _ => hasDistinctKeys_of_otherSource) rfl hb hg
  cases hl.symm.trans hwalk
  have hroot := hlib.root_eq rfl
  have hother : otherText ≠ lib.root.text := by
    rw [hroot]
    decide
  -- the reference of the root brings the other document into the library
  have hsplitA : Pointer.split "#/properties/a" = ["properties", "a"] := by decide
  obtain ⟨q, hnamed, hfound, -⟩ := (hall ⟨lib.root.text, ["properties", "a"]⟩
    "other.json#/definitions/X" hidA (by rw [Library.path, if_pos rfl, hsplitA])
    (Library.reference?_eq_some.2 ⟨_, Library.find?_root, by rw [hlib.schema]; rfl⟩)).2.1
      ⟨_, _, Library.find?_root, by
        rw [hlib.schema]
        exact .under rfl (.named rfl rfl) (.here _)⟩
  have hdocument : q.document = otherText := by
    have htarget : (Resolver.target? defaultRoot "other.json#/definitions/X").map (·.1.text) =
        some otherText := by
      decide +kernel
    obtain ⟨document, fragment, hsome, -, rfl⟩ :=
      (Library.named?_eq_some Library.find?_root).1 hnamed
    rw [hroot] at hsome
    rw [hsome] at htarget
    exact Option.some.inj htarget
  rw [hdocument] at hfound
  obtain ⟨⟨uri, value⟩, hd⟩ := Option.isSome_iff_exists.1 hfound
  have htext : uri.text = otherText := (Library.find?_eq_some.1 hd).2
  obtain rfl : value = otherDefinitions := by
    rcases Library.eq_root_or_mem_others hd with ⟨hsame, -⟩ | ⟨-, hmem⟩
    · exact absurd hsame hother
    · have hget := DocumentSource.fetch_ofDocuments.1 (hlib.fetched _ hmem)
      exact (Prod.mk.inj (List.mem_singleton.1 (Dict.mem_of_get? hget))).2
  have hschema : lib.IsSchema ⟨otherText, ["definitions", "X", "properties", "p"]⟩ :=
    ⟨_, _, hd, .under rfl (.named rfl rfl) (.under rfl (.named rfl rfl) (.here _))⟩
  refine ⟨b, g, l, hb, hg, hl, ?_⟩
  have hsplit : Pointer.split "#/$external/file:~1~1~1other.json/definitions/X/properties/p" =
      [Keyword.external, otherText, "definitions", "X", "properties", "p"] := by
    decide
  have hpath : ∀ path, lib.path ⟨otherText, path⟩ = Keyword.external :: otherText :: path :=
    fun path => if_neg hother
  rw [← hpath]
  have hvalue : lib.value? ⟨otherText, ["definitions", "D"]⟩ =
      some (.object [("type", .string "string")]) := by
    rw [Library.value?, hd]
    rfl
  refine (hall _ "#/definitions/D" hid (hsplit.trans (hpath _).symm) ?_).1
    ⟨otherText, ["definitions", "D"]⟩ _ (Or.inl hschema) ?_ (.here hvalue rfl) (Or.inl hschema)
  · exact Library.reference?_eq_some.2 ⟨_, hd, rfl⟩
  · exact (Library.named?_eq_some hd).2 ⟨uri, "/definitions/D", rfl, by decide, by
      rw [htext, show Pointer.split "/definitions/D" = ["definitions", "D"] from by decide]⟩

/-- A root whose property leads below a key of another document that is no structural keyword; the
root has a definition of its own. -/
def withComponents : Json :=
  .object [("properties", .object [("a", .object [("$ref", .string "other.json#/components/X")])]),
    ("definitions", .object [("D", .object [("type", .string "number")])])]

/-- The other document: what stands below that key uses a definition of the same document. -/
def otherComponents : Json :=
  .object [("components", .object [("X", .object [("properties", .object [
      ("p", .object [("$ref", .string "#/definitions/D")])])])]),
    ("definitions", .object [("D", .object [("type", .string "string")])])]

/-- The URI of the other document. -/
def otherUri : Uri := { Uri.Reader.emptyFile with path := .rooted "/other.json" }

/-- The library of the two documents. -/
def componentsLibrary : Library where
  root := defaultRoot
  schema := withComponents
  others := [(otherUri, otherComponents)]
  distinct := by decide

/-- The place of the reference below that key. -/
def componentsPlace : Place := ⟨otherText, ["components", "X", "properties", "p"]⟩

open SchemaGraph in
/-- **A reference that is linked astray**: inside the other document `#/definitions/D` names the
string that is defined there, and it is linked to the number that the root defines. -/
theorem reference_links_astray_components :
    ∃ b g l id, Bundle.ofSchema withComponents {} (.ofDocuments [(otherText, otherComponents)]) =
        .ok b ∧ SchemaGraph.ofBundle b {} = .ok g ∧ walk b {} = .ok (g.root, l) ∧
      componentsLibrary.GatheredFor withComponents {}
        (.ofDocuments [(otherText, otherComponents)]) ∧
      l.byPointer.lookup "#/$external/file:~1~1~1other.json/components/X/properties/p" = some id ∧
      Pointer.split "#/$external/file:~1~1~1other.json/components/X/properties/p" =
        componentsLibrary.path componentsPlace ∧
      componentsLibrary.reference? componentsPlace = some "#/definitions/D" ∧
      componentsLibrary.named? componentsPlace "#/definitions/D" =
        some ⟨otherText, ["definitions", "D"]⟩ ∧
      componentsLibrary.Denotes (fun _ _ => True) ⟨otherText, ["definitions", "D"]⟩
        ⟨otherText, ["definitions", "D"]⟩ ∧
      l.place id = ["definitions", "D"] ∧
      componentsLibrary.path ⟨otherText, ["definitions", "D"]⟩ ≠ l.place id := by
  have hrun : (Bundle.ofSchema withComponents {}
      (.ofDocuments [(otherText, otherComponents)])).toOption.any (fun b =>
        (SchemaGraph.ofBundle b {}).toOption.any fun g => (walk b {}).toOption.any fun w =>
          (w.2.byPointer.lookup
            "#/$external/file:~1~1~1other.json/components/X/properties/p").any fun id =>
              w.2.place id = ["definitions", "D"]) = true := by
    decide +kernel
  obtain ⟨b, hb, hrun⟩ := exists_ok_of_any hrun
  obtain ⟨g, hg, hrun⟩ := exists_ok_of_any hrun
  obtain ⟨⟨root, l⟩, hl, hreached⟩ := exists_ok_of_any hrun
  obtain ⟨id, hid, hplace⟩ := (Option.any_eq_true ..).1 hreached
  obtain ⟨l', hwalk, -⟩ := exists_walk hg
  cases hl.symm.trans hwalk
  replace hplace : l.place id = ["definitions", "D"] := of_decide_eq_true hplace
  have hbase : (({} : Options).base?).toOption.any (fun uri => uri = defaultRoot) = true := by
    decide +kernel
  obtain ⟨base, hbase, heq⟩ := exists_ok_of_any hbase
  have hvalue : componentsLibrary.value? ⟨otherText, ["definitions", "D"]⟩ =
      some (.object [("type", .string "string")]) := rfl
  refine ⟨b, g, l, id, hb, hg, hl, ⟨⟨base, hbase, ?_⟩, rfl, ?_⟩, hid, by decide, by decide,
    by decide, .here hvalue rfl, hplace, ?_⟩
  · rw [of_decide_eq_true heq]
    decide
  · intro d hd
    cases List.mem_singleton.1 hd
    have htext : otherUri.text = otherText := by decide
    refine DocumentSource.fetch_ofDocuments.2 ?_
    rw [htext]
    rfl
  · rw [hplace]
    decide

end SchemaTypings
