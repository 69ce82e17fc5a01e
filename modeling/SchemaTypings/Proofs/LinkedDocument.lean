import SchemaTypings.Proofs.FaithfulLinking

/-! # The graph represents the document

Where every reference that linking meets leads to a schema at once, the graph of a document is the
document: one node for each place that is met, and in each node what the schema says in the end.
So a schema beside a reference shares the nodes of what it inherits with its target.
-/
namespace SchemaTypings
namespace SchemaGraph

variable {root : Json}

/-- **What a schema beside a reference shares with its target**: every field whose keyword it does
not say itself. -/
structure Shares (own : Dict Json) (n m : SchemaNode) : Prop where
  fields : ∀ field : Field, own.get? field.keyword = none → field.get n = field.get m
  definitions : own.get? "definitions" = none → own.get? "$defs" = none →
    n.definitions = m.definitions

/-- What is inherited has the same nodes as in the target. -/
theorem shares_of_represents {stands : String → SchemaId → Prop}
    (hunique : ∀ pointer id other, stands pointer id → stands pointer other → id = other)
    {pointer target : String} {object other : Dict Json} {n m : SchemaNode}
    (hn : Represents stands (contents root pointer (.object object)) n)
    (hm : Represents stands (contents root target (.object other)) m)
    (hreference : Bundle.reference? object = some target)
    (htarget : Pointer.resolve? root target = some (.object other))
    (hnone : Bundle.reference? other = none) : Shares object n m where
  fields := by
    intro field hown
    refine hn.get_eq hunique hm ?_
    have hsame := filter_contents_eq (p := fun key => key = field.keyword) pointer
      (fun key hkey => of_decide_eq_true hkey ▸ hown)
      (fun key hkey => by rw [of_decide_eq_true hkey]; cases field <;> decide) hreference htarget
      hnone
    have hget : ∀ entries : Entries, Dict.get? entries field.keyword =
        Dict.get? (entries.filter fun entry => decide (entry.1 = field.keyword)) field.keyword := by
      intro entries
      rw [Dict.get?_filter entries fun key => decide (key = field.keyword)]
      simp
    rw [hget, hsame, ← hget]
  definitions := by
    intro hdefinitions hdefs
    refine hn.definitions_eq hunique hm (filter_contents_eq pointer (fun key hkey => ?_)
      (fun key hkey => ?_) hreference htarget hnone)
    all_goals
      rw [isDefinitions, Bool.or_eq_true, decide_eq_true_iff, decide_eq_true_iff] at hkey
      rcases hkey with rfl | rfl
    · exact hdefinitions
    · exact hdefs
    · decide
    · decide

/-- **The graph represents the document**, where every reference that linking meets leads to a
schema at once: the node of each place, which is like the value there, represents what the schema
says in the end; there is one node for each place; and what a schema inherits beside a reference has
the same nodes as in the target.  The keywords for definitions share one field, where a later one
takes the place of an earlier one of the same key. -/
theorem ofBundle_represents {b : Bundle} {o : Options} {g : SchemaGraph}
    (hkeys : b.schema.hasDistinctKeys = true) (hdirect : Direct b.schema)
    (h : ofBundle b o = .ok g) :
    NodeOf b.schema g.nodes "#" g.root ∧
      (∀ id < g.size, ∃ value, Frames b.schema (g.node id) value ∧
        Represents (NodeOf b.schema g.nodes) (contents b.schema (g.node id).pointer value)
          (g.node id)) ∧
      (∀ id < g.size, ∀ other < g.size, (g.node id).pointer = (g.node other).pointer →
        id = other) ∧
      ∀ id < g.size, ∀ other < g.size, ∀ object target,
        Pointer.resolve? b.schema (g.node id).pointer = some (.object object) →
        Bundle.reference? object = some (g.node other).pointer →
        Pointer.resolve? b.schema (g.node other).pointer = some (.object target) →
        Bundle.reference? target = none → Shares object (g.node id) (g.node other) := by
  obtain ⟨⟨nodes, places, cycles⟩, hwalk, rfl, rfl⟩ := exists_walk h
  have hstart : Faithful b.schema [] ⟨#[], [], []⟩ :=
    ⟨by simp, by simp, by simp, by simp, by simp⟩
  obtain ⟨hfaithful, -, hroot⟩ := finds_linkNode hkeys hdirect o.maxDepth (o.maxDepth + 1) [] _ _
    {} _ rfl .start hstart _ _ hwalk
  have hrepresents : ∀ id < g.nodes.size, ∀ value, Frames b.schema (nodeAt g.nodes id) value →
      Represents (NodeOf b.schema g.nodes) (contents b.schema (nodeAt g.nodes id).pointer value)
        (nodeAt g.nodes id) := fun id hid => hfaithful.left id hid List.not_mem_nil
  refine ⟨hroot, fun id hid => ?_, fun id hid other hother heq => ?_,
    fun id hid other hother object target hobject hreference htarget hnone => ?_⟩
  · obtain ⟨value, hvalue⟩ := hfaithful.framed id hid
    exact ⟨value, hvalue, hrepresents id hid value hvalue⟩
  · have hsame := hfaithful.own other hother
    have hpointer : (nodeAt g.nodes id).pointer = (nodeAt g.nodes other).pointer := heq
    rw [← hpointer, hfaithful.own id hid] at hsame
    exact Option.some.inj hsame
  · obtain ⟨value, hvalue⟩ := hfaithful.framed id hid
    obtain ⟨value', hvalue'⟩ := hfaithful.framed other hother
    obtain rfl := Option.some.inj (hvalue.found.symm.trans hobject)
    obtain rfl := Option.some.inj (hvalue'.found.symm.trans htarget)
    exact shares_of_represents hfaithful.unique (hrepresents id hid _ hvalue)
      (hrepresents other hother _ hvalue') hreference htarget hnone

/-- A schema that refers to itself, once barely and once beside a description. -/
def family : Json :=
  .object [("properties", .object [
      ("first", .object [("$ref", .string "#/definitions/Person")]),
      ("second", .object [("$ref", .string "#/definitions/Person"),
        ("description", .string "or none")])]),
    ("definitions", .object [("Person", .object [("type", .string "object"),
      ("properties", .object [("parent", .object [("$ref", .string "#/definitions/Person")])])])])]

/-- The second member is a schema of its own with the same parent. -/
theorem ofBundle_represents_family :
    ∃ g, ofBundle ⟨family, []⟩ {} = .ok g ∧ g.size = 3 ∧
      (∀ id < g.size, ∃ value, Frames family (g.node id) value ∧ Represents
        (NodeOf family g.nodes) (contents family (g.node id).pointer value) (g.node id)) ∧
      ∃ id < g.size, ∃ other < g.size, id ≠ other ∧
        (g.node id).properties = (g.node other).properties ∧ (g.node id).properties ≠ [] := by
  have hrun : (ofBundle ⟨family, []⟩ {}).toOption.any (fun g => decide (g.size = 3) &&
      (decide ((g.node 1).pointer = "#/definitions/Person") &&
        decide ((g.node 2).pointer = "#/properties/second")) &&
      decide ((g.node 2).properties ≠ [])) = true := by decide +kernel
  obtain ⟨g, hg, hchecks⟩ := exists_ok_of_any hrun
  obtain ⟨hchecks, hproperties⟩ := Bool.and_eq_true_iff.1 hchecks
  obtain ⟨hsize, hpointers⟩ := Bool.and_eq_true_iff.1 hchecks
  obtain ⟨hperson, hsecond⟩ := Bool.and_eq_true_iff.1 hpointers
  have hthree : g.size = 3 := of_decide_eq_true hsize
  have hperson := of_decide_eq_true hperson
  have hsecond := of_decide_eq_true hsecond
  obtain ⟨-, hrepresents, -, hshares⟩ := ofBundle_represents (b := ⟨family, []⟩) (o := {})
    (by decide +kernel) (direct_of_isDirectWithin ["#", "#/properties/first", "#/properties/second",
      "#/definitions/Person", "#/definitions/Person/properties/parent"] (by decide +kernel)) hg
  have htwo : 2 < g.size := by omega
  have hone : 1 < g.size := by omega
  obtain ⟨second, hsecondValue⟩ : ∃ second, Pointer.resolve? family (g.node 2).pointer =
      some (.object second) ∧ Bundle.reference? second = some (g.node 1).pointer ∧
        Dict.get? second "properties" = none := by
    rw [hsecond, hperson]
    exact ⟨_, rfl, rfl, rfl⟩
  obtain ⟨person, hpersonValue⟩ : ∃ person, Pointer.resolve? family (g.node 1).pointer =
      some (.object person) ∧ Bundle.reference? person = none := by
    rw [hperson]
    exact ⟨_, rfl, rfl⟩
  have hsame := (hshares 2 htwo 1 hone second person hsecondValue.1 hsecondValue.2.1 hpersonValue.1
    hpersonValue.2).fields .properties hsecondValue.2.2
  exact ⟨g, hg, hthree, hrepresents, 2, htwo, 1, hone, by decide, hsame,
    of_decide_eq_true hproperties⟩

/-- Whether no key of an object stands under both of its keywords for definitions. -/
def definesApart (object : Dict Json) : Bool :=
  match object.get? "definitions", object.get? "$defs" with
  | some (.object entries), some (.object others) =>
    entries.all fun entry => !Dict.contains others entry.1
  | _, _ => true

mutual

/-- **No object in a value has a key under both keywords for definitions.** -/
def definesOnce : Json → Bool
  | .array items => itemsDefineOnce items
  | .object entries => definesApart entries && entriesDefineOnce entries
  | _ => true

/-- No item of an array has such an object in it. -/
def itemsDefineOnce : List Json → Bool
  | [] => true
  | item :: rest => definesOnce item && itemsDefineOnce rest

/-- No value of an object has such an object in it. -/
def entriesDefineOnce : List (String × Json) → Bool
  | [] => true
  | (_, value) :: rest => definesOnce value && entriesDefineOnce rest

end

/-- A schema that redefines, under the other keyword, what the target of its reference defines. -/
def redefining : Json :=
  .object [("$ref", .string "#/definitions/T"),
    ("$defs", .object [("K", .object [("type", .string "string")])])]

/-- A document with a schema that redefines. -/
def redefined : Json :=
  .object [("properties", .object [("a", redefining)]),
    ("definitions", .object [("T", .object [
      ("definitions", .object [("K", .object [("type", .string "number")])])])])]

/-- **A definition that is not held**: no object in the document has a key under both keywords for
definitions, but what the schema says in the end has, and its node holds the later one alone. -/
theorem ofBundle_redefined_drops_definition :
    redefined.hasDistinctKeys = true ∧ definesOnce redefined = true ∧ Direct redefined ∧
      ∃ g, ofBundle ⟨redefined, []⟩ {} = .ok g ∧ ∃ id < g.size,
        Frames redefined (g.node id) redefining ∧
        ("definitions", .object [("K", .object [("type", .string "number")])], "#/definitions/T") ∈
          contents redefined (g.node id).pointer redefining ∧
        ∀ part ∈ (g.node id).definitions,
          ¬ NodeOf redefined g.nodes "#/definitions/T/definitions/K" part.2 := by
  have hrun : (ofBundle ⟨redefined, []⟩ {}).toOption.any (fun g => decide (1 < g.size) &&
      decide ((g.node 1).pointer = "#/properties/a") && decide ((g.node 1).boolean = none) &&
      decide ((g.node 1).unresolvedRef = none) && (g.node 1).definitions.all fun part =>
        decide ((g.node part.2).pointer = "#/properties/a/$defs/K")) = true := by decide +kernel
  obtain ⟨g, hg, hchecks⟩ := exists_ok_of_any hrun
  simp only [Bool.and_eq_true, decide_eq_true_iff, List.all_eq_true] at hchecks
  obtain ⟨⟨⟨⟨hsize, hpointer⟩, hboolean⟩, hleads⟩, hdefinitions⟩ := hchecks
  have hdirect : Direct redefined := direct_of_isDirectWithin ["#", "#/properties/a",
    "#/properties/a/$defs/K", "#/definitions/T", "#/definitions/T/definitions/K"]
    (by decide +kernel)
  refine ⟨by decide +kernel, by decide +kernel, hdirect, g, hg, 1, hsize,
    ⟨?_, rfl, hboolean, hleads⟩, ?_, fun part hpart hnode => ?_⟩
  · rw [hpointer]
    rfl
  · have hcontents : contents redefined "#/properties/a" redefining =
        [("definitions", .object [("K", .object [("type", .string "number")])], "#/definitions/T"),
          ("$defs", .object [("K", .object [("type", .string "string")])], "#/properties/a")] := rfl
    rw [hpointer, hcontents]
    exact List.mem_cons_self
  · obtain ⟨-, value, hvalue, heq⟩ := hnode
    have hnumber : Pointer.resolve? redefined "#/definitions/T/definitions/K" =
        some (.object [("type", .string "number")]) := rfl
    obtain rfl := Option.some.inj (hvalue.symm.trans hnumber)
    have hplace := hdefinitions part hpart
    exact absurd (heq.symm.trans hplace) (by decide)

end SchemaGraph
end SchemaTypings
