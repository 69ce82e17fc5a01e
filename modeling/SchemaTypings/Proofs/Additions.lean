import SchemaTypings.Proofs.Inheritance

/-! # What making types adds

Making types is a sequence of steps on a state that only grows, and `Adds` is what a step does as a
relation of the states before and after.  Nodes stay as they are, and so does the type of a schema;
no two schemas share a type; and a schema that gets a type gets a class exactly when it
`BecomesClass`, with the types of its candidates for bases.
-/
namespace SchemaTypings

/-- Whether a kind is a text that a schema gives. -/
def TypeKind.isCustom : TypeKind → Bool
  | .custom _ => true
  | _ => false

/-- Whether a kind is neither a class nor a text that a schema gives. -/
def TypeKind.isPlain (kind : TypeKind) : Bool := !kind.isRecord && !kind.isCustom

theorem TypeKind.isRecord_of_isPlain {kind : TypeKind} (h : kind.isPlain = true) :
    kind.isRecord = false := by
  simpa using (Bool.and_eq_true_iff.1 h).1

theorem TypeKind.isCustom_of_isPlain {kind : TypeKind} (h : kind.isPlain = true) :
    kind.isCustom = false := by
  simpa using (Bool.and_eq_true_iff.1 h).2

/-- A kind that is no class has no bases. -/
theorem TypeKind.bases_of_not_isRecord {kind : TypeKind} (h : kind.isRecord = false) :
    kind.bases = [] := by
  cases kind with
  | record members bases => cases h
  | _ => rfl

theorem TypeKind.isRecord_of_mem_bases {kind : TypeKind} {base : TypeId} (h : base ∈ kind.bases) :
    kind.isRecord = true := by
  by_contra hnot
  rw [kind.bases_of_not_isRecord (by simpa using hnot)] at h
  cases h

/-- A class is no text that a schema gives. -/
theorem TypeKind.isCustom_of_isRecord {kind : TypeKind} (h : kind.isRecord = true) :
    kind.isCustom = false := by
  cases kind with
  | record members bases => rfl
  | _ => cases h

namespace TypeGraph

/-! ### What schemas become -/

/-- **A schema gets bases**: its candidates become the bases of a class. -/
def GetsBases (g : SchemaGraph) (schema : SchemaId) : Prop :=
  hasBases g schema = true ∧ (g.node schema).boolean = none ∧ (g.node schema).customType? = none

instance (g : SchemaGraph) (schema : SchemaId) : Decidable (GetsBases g schema) :=
  inferInstanceAs (Decidable (_ ∧ _ ∧ _))

/-- **A schema inherits**: it gets bases, and the class that has them is all of its type. -/
def Inherits (g : SchemaGraph) (schema : SchemaId) : Prop :=
  GetsBases g schema ∧ (g.node schema).anyOf = [] ∧ (g.node schema).oneOf = []

instance (g : SchemaGraph) (schema : SchemaId) : Decidable (Inherits g schema) :=
  inferInstanceAs (Decidable (_ ∧ _ ∧ _))

/-- What a schema without bases says of its own values is a class: it has members, and its types
admit objects alone. -/
def SaysClass (n : SchemaNode) : Prop :=
  n.isEnumShaped = false ∧ n.isClassShaped = true ∧ (n.types = [] ∨ n.types = ["object"])

instance (n : SchemaNode) : Decidable (SaysClass n) := inferInstanceAs (Decidable (_ ∧ _ ∧ _))

/-- **A schema becomes a class**: a class with bases, or one by its own members, is all that it
says. -/
def BecomesClass (g : SchemaGraph) (schema : SchemaId) : Prop :=
  (g.node schema).boolean = none ∧ (g.node schema).customType? = none ∧
    (g.node schema).anyOf = [] ∧ (g.node schema).oneOf = [] ∧
    (hasBases g schema = true ∨
      ((g.node schema).allOf = [] ∧ (g.node schema).bases = [] ∧ SaysClass (g.node schema)))

instance (g : SchemaGraph) (schema : SchemaId) : Decidable (BecomesClass g schema) :=
  inferInstanceAs (Decidable (_ ∧ _ ∧ _ ∧ _ ∧ _))

/-! ### States -/

namespace Growth

/-- The type of a schema. -/
def Assigns (s : Growth) (schema : SchemaId) (type : TypeId) : Prop :=
  s.typeOf.lookup schema = some type

/-- The types of schemas, one by one. -/
def AssignsAll (s : Growth) : List SchemaId → List TypeId → Prop := List.Forall₂ s.Assigns

/-- **What a type takes from schemas**: its name, its bases from one that gets them, and its text
from one that gives it, unless it is the type without values. -/
structure Justifies (s : Growth) (g : SchemaGraph) (node : TypeNode) : Prop where
  name : ∀ name, node.name = some name → ∃ schema, (g.node schema).standaloneName = some name
  bases : node.kind.bases ≠ [] → ∃ schema, GetsBases g schema ∧ s.Has schema ∧
    s.AssignsAll (baseCandidates (g.node schema)) node.kind.bases
  custom : ∀ text, node.kind = .custom text → text = "never" ∨
    ∃ schema, s.Has schema ∧ (g.node schema).customType? = some text

/-- What a type takes from schemas is a matter of their types alone. -/
theorem Justifies.of_typeOf {s : Growth} {g : SchemaGraph} {node : TypeNode}
    {nodes : Array TypeNode} (h : s.Justifies g node) : Justifies { s with nodes } g node :=
  ⟨h.name, h.bases, h.custom⟩

theorem has_iff {s : Growth} {schema : SchemaId} :
    s.Has schema ↔ ∃ type, s.Assigns schema type := by
  unfold Has Assigns
  induction s.typeOf with
  | nil => simp
  | cons entry rest ih =>
    rw [List.map_cons, List.mem_cons, ih, List.lookup_cons]
    by_cases h : schema = entry.1
    · simp [h]
    · simp [h, beq_eq_false_iff_ne.2 h]

theorem Assigns.unique {s : Growth} {schema : SchemaId} {type other : TypeId}
    (h : s.Assigns schema type) (hother : s.Assigns schema other) : type = other :=
  Option.some.inj (h.symm.trans hother)

/-- The schemas without a type. -/
def untyped (s : Growth) (g : SchemaGraph) : List SchemaId :=
  g.ids.filter fun schema => (s.typeOf.lookup schema).isNone

/-- No more schemas are without a type where all types stay. -/
theorem length_untyped_le {s t : Growth}
    (h : ∀ schema type, s.Assigns schema type → t.Assigns schema type) (g : SchemaGraph) :
    (t.untyped g).length ≤ (s.untyped g).length := by
  refine (List.monotone_filter_right _ fun schema hnone => ?_).length_le
  cases hlookup : s.typeOf.lookup schema with
  | none => rfl
  | some type =>
    rw [h schema type hlookup] at hnone
    cases hnone

end Growth

/-- **The kind of the type of a schema**, as far as classes and their bases go. -/
structure Fulfils (g : SchemaGraph) (s : Growth) (schema : SchemaId) (kind : TypeKind) : Prop where
  isRecord : kind.isRecord = true ↔ BecomesClass g schema
  inherits : Inherits g schema → s.AssignsAll (baseCandidates (g.node schema)) kind.bases
  bases : kind.bases ≠ [] → Inherits g schema
  custom : ∀ text, kind = .custom text → text = "never" ∨
    (g.node schema).customType? = some text
  split : SplitsBases g schema → ∃ (id : TypeId) (node : TypeNode), s.nodes[id]? = some node ∧
    s.AssignsAll (baseCandidates (g.node schema)) node.kind.bases

/-- **What a step adds**: nodes and types of schemas, and nothing else changes. -/
structure Adds (g : SchemaGraph) (s t : Growth) : Prop where
  nodes : ∀ (id : TypeId) (node : TypeNode), s.nodes[id]? = some node → t.nodes[id]? = some node
  assigned : ∀ schema type, s.Assigns schema type → t.Assigns schema type
  fulfilled : ∀ schema type, t.Assigns schema type → s.Assigns schema type ∨
    (s.nodes.size ≤ type ∧ ∃ node : TypeNode, t.nodes[type]? = some node ∧
      Fulfils g t schema node.kind)
  distinct : ∀ schema other type, t.Assigns schema type → t.Assigns other type →
    schema = other ∨ (s.Assigns schema type ∧ s.Assigns other type)
  justified : ∀ (id : TypeId) (node : TypeNode), t.nodes[id]? = some node →
    s.nodes[id]? = some node ∨ t.Justifies g node

/-- **Ready for more levels of nesting**: there are as many as schemas without a type. -/
structure Ready (g : SchemaGraph) (levels : Nat) (s : Growth) : Prop where
  inRange : ∀ schema type, s.Assigns schema type → type < s.nodes.size
  enough : (s.untyped g).length ≤ levels

variable {g : SchemaGraph} {levels : Nat} {s t u : Growth}

namespace Adds

theorem refl (s : Growth) : Adds g s s where
  nodes := fun _ _ h => h
  assigned := fun _ _ h => h
  fulfilled := fun _ _ h => Or.inl h
  distinct := fun _ _ _ h h' => Or.inr ⟨h, h'⟩
  justified := fun _ _ h => Or.inl h

theorem size_le (h : Adds g s t) : s.nodes.size ≤ t.nodes.size :=
  Growth.size_le h.nodes

theorem assignsAll (h : Adds g s t) {schemas : List SchemaId} {types : List TypeId}
    (hall : s.AssignsAll schemas types) : t.AssignsAll schemas types :=
  hall.imp fun schema type => h.assigned schema type

theorem has (h : Adds g s t) {schema : SchemaId} (hhas : s.Has schema) : t.Has schema := by
  obtain ⟨type, htype⟩ := Growth.has_iff.1 hhas
  exact Growth.has_iff.2 ⟨type, h.assigned schema type htype⟩

theorem justifies (h : Adds g s t) {node : TypeNode} (hnode : s.Justifies g node) :
    t.Justifies g node where
  name := hnode.name
  bases := by
    intro hne
    obtain ⟨schema, hbases, hhas, hall⟩ := hnode.bases hne
    exact ⟨schema, hbases, h.has hhas, h.assignsAll hall⟩
  custom := fun text htext => (hnode.custom text htext).imp_right fun ⟨schema, hhas, hcustom⟩ =>
    ⟨schema, h.has hhas, hcustom⟩

theorem fulfils (h : Adds g s t) {schema : SchemaId} {kind : TypeKind}
    (hkind : Fulfils g s schema kind) : Fulfils g t schema kind where
  isRecord := hkind.isRecord
  inherits := fun hinherits => h.assignsAll (hkind.inherits hinherits)
  bases := hkind.bases
  custom := hkind.custom
  split := by
    intro hsplits
    obtain ⟨id, node, hnode, hall⟩ := hkind.split hsplits
    exact ⟨id, node, h.nodes id node hnode, h.assignsAll hall⟩

theorem trans (hst : Adds g s t) (htu : Adds g t u) : Adds g s u where
  nodes := fun id node h => htu.nodes id node (hst.nodes id node h)
  assigned := fun schema type h => htu.assigned schema type (hst.assigned schema type h)
  fulfilled := by
    intro schema type htype
    rcases htu.fulfilled schema type htype with hearlier | ⟨hle, hnew⟩
    · refine (hst.fulfilled schema type hearlier).imp_right fun ⟨hle, node, hnode, hkind⟩ => ?_
      exact ⟨hle, node, htu.nodes type node hnode, htu.fulfils hkind⟩
    · exact Or.inr ⟨Nat.le_trans hst.size_le hle, hnew⟩
  distinct := by
    intro schema other type htype hother
    rcases htu.distinct schema other type htype hother with heq | ⟨htype', hother'⟩
    · exact Or.inl heq
    · exact hst.distinct schema other type htype' hother'
  justified := by
    intro id node hnode
    rcases htu.justified id node hnode with hearlier | hnew
    · exact (hst.justified id node hearlier).imp_right htu.justifies
    · exact Or.inr hnew

instance : IsPreorder Growth (Adds g) where
  refl := refl
  trans _ _ _ := trans

/-- A step leaves the state ready. -/
theorem ready (h : Adds g s t) (hs : Ready g levels s) : Ready g levels t where
  inRange := by
    intro schema type htype
    rcases h.fulfilled schema type htype with hearlier | ⟨-, node, hnode, -⟩
    · exact Nat.lt_of_lt_of_le (hs.inRange schema type hearlier) h.size_le
    · exact (Array.getElem?_eq_some_iff.1 hnode).1
  enough := Nat.le_trans (Growth.length_untyped_le h.assigned g) hs.enough

/-- A state with the same nodes and types of schemas. -/
theorem of_eq (hnodes : t.nodes = s.nodes) (htypes : t.typeOf = s.typeOf) : Adds g s t := by
  have hassigns : t.Assigns = s.Assigns := by
    funext schema type
    rw [Growth.Assigns, Growth.Assigns, htypes]
  refine ⟨?_, ?_, ?_, ?_, ?_⟩
  · exact fun id node h => hnodes ▸ h
  · exact fun schema type h => hassigns ▸ h
  · exact fun schema type h => Or.inl (hassigns ▸ h)
  · exact fun schema other type h h' => Or.inr ⟨hassigns ▸ h, hassigns ▸ h'⟩
  · exact fun id node h => Or.inl (hnodes ▸ h)

/-- A node may be added that takes nothing but what schemas give. -/
theorem push (s : Growth) {node : TypeNode} (h : s.Justifies g node) :
    Adds g s { s with nodes := s.nodes.push node } where
  nodes := fun _ _ hid => getElem?_push_of_some hid _
  assigned := fun _ _ h => h
  fulfilled := fun _ _ h => Or.inl h
  distinct := fun _ _ _ h h' => Or.inr ⟨h, h'⟩
  justified := by
    intro id other hid
    rw [Array.getElem?_push] at hid
    split at hid
    · cases hid
      exact Or.inr h.of_typeOf
    · exact Or.inl hid

end Adds

/-! ### Steps -/

/-- **What a step of making types does**: it adds to the state, and brings a value with `Q`. -/
def Adding (g : SchemaGraph) (levels : Nat) (s : Growth) {α : Type} (x : Growing α)
    (Q : α → Growth → Prop) : Prop :=
  After x s fun a t => Ready g levels t ∧ Adds g s t ∧ Q a t

namespace Adding

variable {α β : Type}

theorem pure {a : α} {Q : α → Growth → Prop} (hs : Ready g levels s) (h : Q a s) :
    Adding g levels s (Pure.pure a) Q := Rises.pure hs h

theorem bind {x : Growing α} {f : α → Growing β} {Q : α → Growth → Prop}
    {R : β → Growth → Prop} (hx : Adding g levels s x Q)
    (hf : ∀ a t, Ready g levels t → Adds g s t → Q a t → Adding g levels t (f a) R) :
    Adding g levels s (x >>= f) R := Rises.bind hx hf

theorem map {x : Growing α} {f : α → β} {Q : α → Growth → Prop} {R : β → Growth → Prop}
    (hx : Adding g levels s x Q) (hf : ∀ a t, Q a t → R (f a) t) :
    Adding g levels s (f <$> x) R := Rises.map hx hf

theorem mono {x : Growing α} {Q R : α → Growth → Prop} (hx : Adding g levels s x Q)
    (h : ∀ a t, Q a t → R a t) : Adding g levels s x R := Rises.mono hx fun a t _ => h a t

theorem listIf {x : Growing (List α)} {Q : List α → Growth → Prop} {asked : Bool}
    (hs : Ready g levels s)
    (hx : Adding g levels s x fun list t => asked = true → Q list t)
    (hnil : asked = false → Q [] s) : Adding g levels s (listIf asked x) Q := by
  unfold TypeGraph.listIf
  cases asked with
  | true => exact hx.mono fun list t h => h rfl
  | false => exact .pure hs (hnil rfl)

/-- A list of steps, each of which brings a value with `Q`. -/
theorem mapM {Q : α → β → Growth → Prop}
    (hstable : ∀ a b (t u : Growth), Adds g t u → Q a b t → Q a b u) {f : α → Growing β}
    {as : List α} (hf : ∀ a ∈ as, ∀ t, Ready g levels t → Adds g s t →
      Adding g levels t (f a) (Q a)) (hs : Ready g levels s) :
    Adding g levels s (as.mapM f) fun bs t => List.Forall₂ (fun a b => Q a b t) as bs :=
  Rises.mapM hstable hf hs

end Adding

theorem adding_addUnnamed (hs : Ready g levels s) {kind : TypeKind}
    (h : s.Justifies g { kind }) :
    Adding g levels s (addUnnamed kind) fun id t => t.nodes[id]? = some { kind } := by
  have hadds : Adds g s { s with nodes := s.nodes.push { kind } } := .push s h
  exact ⟨hadds.ready hs, hadds, Array.getElem?_push_size⟩

theorem isPlain_placeholderKind (o : Options) : (placeholderKind o).isPlain = true := by
  unfold placeholderKind
  split <;> rfl

/-- A kind without bases and texts takes nothing from schemas. -/
theorem justifies_of_bases {kind : TypeKind} (hbases : kind.bases = [])
    (hcustom : kind.isCustom = false) : s.Justifies g { kind } where
  name := fun _ h => nomatch h
  bases := fun hne => absurd hbases hne
  custom := by
    rintro text rfl
    cases hcustom

theorem justifies_of_isPlain {kind : TypeKind} (h : kind.isPlain = true) :
    s.Justifies g { kind } :=
  justifies_of_bases (kind.bases_of_not_isRecord (kind.isRecord_of_isPlain h))
    (kind.isCustom_of_isPlain h)

theorem adding_placeholderType (hs : Ready g levels s) (o : Options) :
    Adding g levels s (placeholderType o) fun _ _ => True := by
  rw [placeholderType]
  refine after_bind.2 (after_get.2 ?_)
  split
  · exact Adding.pure hs trivial
  · have hnew : Adding g levels s (addUnnamed (placeholderKind o)) fun _ _ => True :=
      (adding_addUnnamed hs (justifies_of_isPlain (isPlain_placeholderKind o))).mono
        fun _ _ _ => trivial
    refine hnew.bind fun id t ht _ _ => ?_
    have hadds : Adds g t { t with placeholder := some id } := .of_eq rfl rfl
    exact ⟨hadds.ready ht, hadds, trivial⟩

theorem adding_enumKind (hs : Ready g levels s) (n : SchemaNode) :
    Adding g levels s (enumKind n) fun kind _ => kind.isPlain = true := by
  simp only [enumKind]
  generalize (if n.standaloneName.isSome then _ else _ : Option (List EnumEntry)) = entries
  split
  · exact .pure hs rfl
  · exact .pure hs rfl
  · have hliterals : ∀ values : List Json, Adding g levels s
        (values.mapM fun value => addUnnamed (.literal value)) fun _ _ => True := fun values =>
      (Adding.mapM (Q := fun _ _ _ => True) (fun _ _ _ _ _ h => h)
        (fun value _ t ht _ => (adding_addUnnamed ht (justifies_of_isPlain rfl)).mono
          fun _ _ _ => trivial) hs).mono fun _ _ _ => trivial
    exact (hliterals _).bind fun _ t ht _ _ => .pure ht rfl

end TypeGraph
end SchemaTypings
