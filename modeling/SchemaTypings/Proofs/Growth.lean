import SchemaTypings.Proofs.Stateful
import SchemaTypings.TypeGraph.OfSchema

/-! # What the making of types keeps

Types are made on a state that only grows: nodes are added, and a node that was reserved gets its
kind once.  `ofNode_rule` is the induction over all schemas that get a type.  `Sound` is what every
step keeps: parts are in range, the bases of classes are named, and no type is a reference, for
references come from merging alone.
-/
namespace SchemaTypings
namespace TypeGraph

/-! ### The type of a schema -/

/-- The state in which a schema has a type whose kind is not settled. -/
def Growth.reserving (s : Growth) (g : SchemaGraph) (schema : SchemaId) : Growth :=
  { s with
    nodes := s.nodes.push (reservedNode (g.node schema))
    typeOf := (schema, s.nodes.size) :: s.typeOf }

/-- The state in which the kind of a type is settled. -/
def Growth.settling (t : Growth) (id : TypeId) (kind : TypeKind) : Growth :=
  { t with nodes := t.nodes.modify id fun node => { node with kind } }

theorem Growth.getElem?_settling (t : Growth) {id other : TypeId} (kind : TypeKind)
    (hne : other ≠ id) : (t.settling id kind).nodes[other]? = t.nodes[other]? := by
  rw [settling, Array.getElem?_modify, if_neg (Ne.symm hne)]

theorem Growth.getElem?_settling_self {t : Growth} {id : TypeId} {node : TypeNode}
    (h : t.nodes[id]? = some node) (kind : TypeKind) :
    (t.settling id kind).nodes[id]? = some { node with kind } := by
  rw [settling, Array.getElem?_modify, if_pos rfl, h]
  rfl

/-- What is there stays when a node is added. -/
theorem getElem?_push_of_some {nodes : Array TypeNode} {id : TypeId} {old : TypeNode}
    (h : nodes[id]? = some old) (node : TypeNode) : (nodes.push node)[id]? = some old := by
  rw [Array.getElem?_push_lt (Array.getElem?_eq_some_iff.1 h).1, ← Array.getElem?_eq_getElem, h]

/-- There are no fewer nodes where all stay. -/
theorem Growth.size_le {s t : Growth}
    (h : ∀ (id : TypeId) (node : TypeNode), s.nodes[id]? = some node → t.nodes[id]? = some node) :
    s.nodes.size ≤ t.nodes.size := by
  refine Nat.not_lt.1 fun hlt => ?_
  have hlast := h _ _ (Array.getElem?_eq_getElem hlt)
  exact Nat.lt_irrefl _ (Array.getElem?_eq_some_iff.1 hlast).1

section OfNode

variable {g : SchemaGraph} {o : Options}

/-- A schema with a type is found. -/
theorem ofNode_run_found {s : Growth} {schema : SchemaId} {type : TypeId}
    (h : s.typeOf.lookup schema = some type) (levels : Nat) :
    (ofNode g o levels schema).run s = (type, s) := by
  unfold ofNode
  rw [run_get_bind_eq, h]
  rfl

/-- Without levels the first type stands in. -/
theorem ofNode_run_out {s : Growth} {schema : SchemaId} (h : s.typeOf.lookup schema = none) :
    (ofNode g o 0 schema).run s = (0, s) := by
  unfold ofNode
  rw [run_get_bind_eq, h]
  rfl

/-- A schema without a type gets one: it is reserved, its kind is made, and is settled. -/
theorem ofNode_run_new {s : Growth} {schema : SchemaId} (h : s.typeOf.lookup schema = none)
    (levels : Nat) : (ofNode g o (levels + 1) schema).run s =
      (s.nodes.size,
        Growth.settling ((kindOf (ofNode g o levels) g o schema).run (s.reserving g schema)).2
          s.nodes.size ((kindOf (ofNode g o levels) g o schema).run (s.reserving g schema)).1) := by
  rw [ofNode, run_get_bind_eq, h]
  rfl

/-- **The induction over schemas**, by the levels of nesting: a type is found, or stands in, or it is
reserved, and settled when its kind has been made with visits of which the same holds. -/
theorem ofNode_rule {P : Nat → SchemaId → Growth → Prop}
    {Q : Nat → SchemaId → Growth → TypeId → Growth → Prop}
    (found : ∀ {levels schema s type}, P levels schema s → s.typeOf.lookup schema = some type →
      Q levels schema s type s)
    (out : ∀ {schema s}, P 0 schema s → s.typeOf.lookup schema = none → Q 0 schema s 0 s)
    (new : ∀ {levels schema s}, (∀ schema s, P levels schema s →
        After (ofNode g o levels schema) s (Q levels schema s)) →
      P (levels + 1) schema s → s.typeOf.lookup schema = none →
      After (kindOf (ofNode g o levels) g o schema) (s.reserving g schema) fun kind t =>
        Q (levels + 1) schema s s.nodes.size (t.settling s.nodes.size kind))
    (levels : Nat) : ∀ schema s, P levels schema s →
      After (ofNode g o levels schema) s (Q levels schema s) := by
  induction levels with
  | zero =>
    intro schema s hs
    unfold After
    cases hlookup : s.typeOf.lookup schema with
    | some type =>
      rw [ofNode_run_found hlookup]
      exact found hs hlookup
    | none =>
      rw [ofNode_run_out hlookup]
      exact out hs hlookup
  | succ levels ih =>
    intro schema s hs
    unfold After
    cases hlookup : s.typeOf.lookup schema with
    | some type =>
      rw [ofNode_run_found hlookup]
      exact found hs hlookup
    | none =>
      rw [ofNode_run_new hlookup]
      exact new ih hs hlookup

end OfNode

/-! ### States -/

namespace Growth

/-- A node is there. -/
def InRange (s : Growth) (id : TypeId) : Prop := id < s.nodes.size

/-- A node is there and has a name. -/
def HasName (s : Growth) (id : TypeId) : Prop :=
  ∃ node : TypeNode, s.nodes[id]? = some node ∧ node.name.isSome

/-- **Growing**: nodes stay, with their names. -/
def Le (s t : Growth) : Prop :=
  ∀ (id : TypeId) (node : TypeNode), s.nodes[id]? = some node →
    ∃ node' : TypeNode, t.nodes[id]? = some node' ∧ node'.name = node.name

theorem Le.refl (s : Growth) : s.Le s := fun _ node h => ⟨node, h, rfl⟩

theorem Le.of_nodes {s t : Growth} (h : t.nodes = s.nodes) : s.Le t :=
  fun _ node hnode => ⟨node, h ▸ hnode, rfl⟩

theorem Le.trans {s t u : Growth} (hst : s.Le t) (htu : t.Le u) : s.Le u := by
  intro id node h
  obtain ⟨node', h', hname'⟩ := hst id node h
  obtain ⟨node'', h'', hname''⟩ := htu id node' h'
  exact ⟨node'', h'', hname''.trans hname'⟩

instance : IsPreorder Growth Le where
  refl := Le.refl
  trans _ _ _ := Le.trans

theorem InRange.mono {s t : Growth} {id : TypeId} (h : s.InRange id) (hst : s.Le t) :
    t.InRange id := by
  obtain ⟨node, hnode, -⟩ := hst id _ (Array.getElem?_eq_getElem h)
  exact (Array.getElem?_eq_some_iff.1 hnode).1

theorem HasName.mono {s t : Growth} {id : TypeId} (h : s.HasName id) (hst : s.Le t) :
    t.HasName id := by
  obtain ⟨node, hnode, hname⟩ := h
  obtain ⟨node', hnode', hname'⟩ := hst id node hnode
  exact ⟨node', hnode', hname' ▸ hname⟩

theorem HasName.inRange {s : Growth} {id : TypeId} (h : s.HasName id) : s.InRange id := by
  obtain ⟨node, hnode, -⟩ := h
  exact (Array.getElem?_eq_some_iff.1 hnode).1

end Growth

/-- What is asked of a kind: its parts are there, its bases have names, and it is no reference. -/
structure KindSound (s : Growth) (kind : TypeKind) : Prop where
  inRange : ∀ part ∈ kind.children, s.InRange part
  bases : ∀ members bases, kind = .record members bases → ∀ base ∈ bases, s.HasName base
  noReference : ∀ target, kind ≠ .reference target

theorem KindSound.mono {s t : Growth} {kind : TypeKind} (h : KindSound s kind) (hst : s.Le t) :
    KindSound t kind where
  inRange := fun part hpart => (h.inRange part hpart).mono hst
  bases := fun members bases hk base hbase => (h.bases members bases hk base hbase).mono hst
  noReference := h.noReference

/-- **What the making of types keeps.**  The first node is the root's and has a name. -/
structure Sound (g : SchemaGraph) (s : Growth) : Prop where
  first : s.HasName 0
  typeOf : ∀ (schema : SchemaId) (type : TypeId), s.typeOf.lookup schema = some type →
    ∃ node : TypeNode, s.nodes[type]? = some node ∧ node.name = (g.node schema).standaloneName
  placeholder : ∀ type, s.placeholder = some type → s.InRange type
  kinds : ∀ (id : TypeId) (node : TypeNode), s.nodes[id]? = some node → KindSound s node.kind

/-- The type of a schema is there, and has a name if the schema has one. -/
structure Lands (g : SchemaGraph) (schema : SchemaId) (type : TypeId) (s : Growth) : Prop where
  inRange : s.InRange type
  named : (g.node schema).standaloneName.isSome → s.HasName type

theorem Lands.mono {g : SchemaGraph} {schema : SchemaId} {type : TypeId} {s t : Growth}
    (h : Lands g schema type s) (hst : s.Le t) : Lands g schema type t :=
  ⟨h.inRange.mono hst, fun hname => (h.named hname).mono hst⟩

/-- The type that was made for a schema is found again. -/
theorem Sound.lands {g : SchemaGraph} {s : Growth} (hs : Sound g s) {schema : SchemaId}
    {type : TypeId} (h : s.typeOf.lookup schema = some type) : Lands g schema type s := by
  obtain ⟨node, hnode, hname⟩ := hs.typeOf schema type h
  exact ⟨(Array.getElem?_eq_some_iff.1 hnode).1, fun hsome => ⟨node, hnode, hname ▸ hsome⟩⟩

/-! ### Steps -/

/-- What a step of growing does: it keeps soundness, grows, and brings a value with `Q`. -/
def Grows (g : SchemaGraph) {α : Type} (s : Growth) (x : Growing α) (Q : α → Growth → Prop) :
    Prop :=
  After x s fun a t => Sound g t ∧ s.Le t ∧ Q a t

namespace Grows

variable {g : SchemaGraph} {α β : Type} {s : Growth}

theorem pure {a : α} {Q : α → Growth → Prop} (hs : Sound g s) (h : Q a s) :
    Grows g s (Pure.pure a) Q := Rises.pure hs h

theorem bind {x : Growing α} {f : α → Growing β} {Q : α → Growth → Prop} {R : β → Growth → Prop}
    (hx : Grows g s x Q)
    (hf : ∀ a t, Sound g t → s.Le t → Q a t → Grows g t (f a) R) : Grows g s (x >>= f) R :=
  Rises.bind hx hf

theorem map {x : Growing α} {f : α → β} {Q : α → Growth → Prop} {R : β → Growth → Prop}
    (hx : Grows g s x Q) (hf : ∀ a t, Q a t → R (f a) t) : Grows g s (f <$> x) R :=
  Rises.map hx hf

theorem mono {x : Growing α} {Q R : α → Growth → Prop} (hx : Grows g s x Q)
    (h : ∀ a t, Q a t → R a t) : Grows g s x R := Rises.mono hx fun a t _ => h a t

theorem get {f : Growth → Growing β} {R : β → Growth → Prop} :
    Grows g s (MonadState.get >>= f) R ↔ Grows g s (f s) R := Iff.rfl

/-- A step that is not taken brings the empty list. -/
theorem listIf {x : Growing (List α)} {Q : List α → Growth → Prop} (hx : Grows g s x Q)
    (hs : Sound g s) (hnil : Q [] s) (asked : Bool) : Grows g s (listIf asked x) Q := by
  unfold TypeGraph.listIf
  split
  · exact hx
  · exact .pure hs hnil

/-- A list of steps, each of which brings a value with `Q`. -/
theorem mapM {Q : α → β → Growth → Prop}
    (hstable : ∀ a b (t u : Growth), t.Le u → Q a b t → Q a b u)
    {f : α → Growing β} {as : List α}
    (hf : ∀ a ∈ as, ∀ t, Sound g t → s.Le t → Grows g t (f a) (Q a)) (hs : Sound g s) :
    Grows g s (as.mapM f) fun bs t => ∀ b ∈ bs, ∃ a ∈ as, Q a b t :=
  Rises.mono (Rises.mapM hstable hf hs) fun _ _ _ hall => exists_left_of_forall₂ hall

end Grows

/-! ### Sound kinds -/

namespace KindSound

variable {s : Growth}

/-- A kind that is neither a class nor a reference needs its parts only. -/
theorem of_inRange {kind : TypeKind} (hparts : ∀ part ∈ kind.children, s.InRange part)
    (hrecord : kind.isRecord = false) (href : ∀ target, kind ≠ .reference target) :
    KindSound s kind where
  inRange := hparts
  bases := fun members bases hkind => by
    rw [hkind] at hrecord
    cases hrecord
  noReference := href

/-- A kind without parts that is no reference. -/
theorem leaf {kind : TypeKind} (hparts : kind.children = []) (hrecord : kind.isRecord = false)
    (href : ∀ target, kind ≠ .reference target) : KindSound s kind :=
  of_inRange (fun part hpart => by rw [hparts] at hpart; cases hpart) hrecord href

theorem union {members : List TypeId} (h : ∀ m ∈ members, s.InRange m) :
    KindSound s (.union members) := of_inRange h rfl fun _ h => by cases h

theorem intersection {members : List TypeId} (h : ∀ m ∈ members, s.InRange m) :
    KindSound s (.intersection members) := of_inRange h rfl fun _ h => by cases h

theorem array {element : TypeId} (h : s.InRange element) : KindSound s (.array element) :=
  of_inRange (fun part hpart => by cases List.mem_singleton.1 hpart; exact h) rfl
    fun _ h => by cases h

theorem tuple {elements : List TypeId} {min : Nat} {max : Option Nat} {spread : Option TypeId}
    (helements : ∀ e ∈ elements, s.InRange e) (hspread : ∀ e ∈ spread, s.InRange e) :
    KindSound s (.tuple elements min max spread) := by
  refine of_inRange (fun part hpart => ?_) rfl fun _ h => by cases h
  rcases List.mem_append.1 hpart with h | h
  · exact helements part h
  · exact hspread part (Option.mem_toList.1 h)

theorem record {members : List Member} {bases : List TypeId}
    (hmembers : ∀ m ∈ members, s.InRange m.type) (hbases : ∀ base ∈ bases, s.HasName base) :
    KindSound s (.record members bases) where
  inRange := by
    intro part hpart
    rcases List.mem_append.1 hpart with h | h
    · obtain ⟨m, hm, rfl⟩ := List.mem_map.1 h
      exact hmembers m hm
    · exact (hbases part h).inRange
  bases := by
    intro members' bases' hkind base hbase
    cases hkind
    exact hbases base hbase
  noReference := fun _ h => by cases h

theorem placeholder (o : Options) : KindSound s (placeholderKind o) := by
  unfold placeholderKind
  split
  · exact leaf rfl rfl fun _ h => by cases h
  · exact leaf rfl rfl fun _ h => by cases h

end KindSound

/-! ### Nodes -/

variable {g : SchemaGraph} {s : Growth}

namespace Growth

/-- The state with one more node. -/
def push (s : Growth) (node : TypeNode) : Growth := { s with nodes := s.nodes.push node }

theorem le_push (s : Growth) (node : TypeNode) : s.Le (s.push node) := by
  exact fun id old hold => ⟨old, getElem?_push_of_some hold node, rfl⟩

/-- The state with the kind of one node replaced. -/
def setKind (s : Growth) (id : TypeId) (kind : TypeKind) : Growth :=
  { s with nodes := s.nodes.modify id fun node => { node with kind } }

theorem getElem?_setKind (s : Growth) (id : TypeId) (kind : TypeKind) (other : TypeId) :
    (s.setKind id kind).nodes[other]? =
      s.nodes[other]?.map fun node => if id = other then { node with kind } else node := by
  rw [setKind, Array.getElem?_modify]
  split
  · rfl
  · simp

theorem le_setKind (s : Growth) (id : TypeId) (kind : TypeKind) : s.Le (s.setKind id kind) := by
  intro other node hnode
  rw [getElem?_setKind, hnode]
  refine ⟨_, rfl, ?_⟩
  split <;> rfl

end Growth

theorem Sound.push (hs : Sound g s) {node : TypeNode} (hkind : KindSound s node.kind) :
    Sound g (s.push node) where
  first := hs.first.mono (s.le_push node)
  typeOf := by
    intro schema type htype
    obtain ⟨old, hold, hname⟩ := hs.typeOf schema type htype
    obtain ⟨new, hnew, hsame⟩ := s.le_push node type old hold
    exact ⟨new, hnew, hsame.trans hname⟩
  placeholder := fun type htype => (hs.placeholder type htype).mono (s.le_push node)
  kinds := by
    intro id other hother
    rw [Growth.push, Array.getElem?_push] at hother
    split at hother
    · cases hother
      exact hkind.mono (s.le_push node)
    · exact (hs.kinds id other hother).mono (s.le_push node)

theorem Sound.setKind (hs : Sound g s) {id : TypeId} {kind : TypeKind}
    (hkind : KindSound s kind) : Sound g (s.setKind id kind) where
  first := hs.first.mono (s.le_setKind id kind)
  typeOf := by
    intro schema type htype
    obtain ⟨old, hold, hname⟩ := hs.typeOf schema type htype
    obtain ⟨new, hnew, hsame⟩ := s.le_setKind id kind type old hold
    exact ⟨new, hnew, hsame.trans hname⟩
  placeholder := fun type htype => (hs.placeholder type htype).mono (s.le_setKind id kind)
  kinds := by
    intro other node hnode
    rw [Growth.getElem?_setKind] at hnode
    obtain ⟨old, hold, rfl⟩ := Option.map_eq_some_iff.1 hnode
    split
    · exact hkind.mono (s.le_setKind id kind)
    · exact (hs.kinds other old hold).mono (s.le_setKind id kind)

theorem grows_addNode (hs : Sound g s) {node : TypeNode} (hkind : KindSound s node.kind) :
    Grows g s (addNode node) fun id t => t.nodes[id]? = some node :=
  ⟨hs.push hkind, s.le_push node, Array.getElem?_push_size⟩

theorem grows_addUnnamed (hs : Sound g s) {kind : TypeKind} (hkind : KindSound s kind) :
    Grows g s (addUnnamed kind) fun id t => t.InRange id :=
  (grows_addNode hs hkind).mono fun _ _ h => (Array.getElem?_eq_some_iff.1 h).1

theorem grows_settle (hs : Sound g s) (id : TypeId) {kind : TypeKind} (hkind : KindSound s kind) :
    Grows g s (settle id kind) fun _ _ => True :=
  ⟨hs.setKind hkind, s.le_setKind id kind, trivial⟩

/-- The reserved type of a schema has the schema's name. -/
theorem grows_reserve (hs : Sound g s) {schema : SchemaId} {node : TypeNode}
    (hname : node.name = (g.node schema).standaloneName) (hkind : KindSound s node.kind) :
    Grows g s (reserve schema node) fun id t => t.nodes[id]? = some node := by
  refine (grows_addNode hs hkind).bind fun id t ht _ hid => ?_
  have hle : t.Le { t with typeOf := (schema, id) :: t.typeOf } := .of_nodes rfl
  refine ⟨⟨ht.first, ?_, ht.placeholder, fun other node h => (ht.kinds other node h).mono hle⟩,
    hle, hid⟩
  intro other type htype
  change List.lookup other ((schema, id) :: t.typeOf) = some type at htype
  rw [List.lookup_cons] at htype
  split at htype
  · next heq =>
    cases htype
    exact ⟨node, hid, by rw [hname, eq_of_beq heq]⟩
  · exact ht.typeOf other type htype

theorem grows_placeholderType (hs : Sound g s) (o : Options) :
    Grows g s (placeholderType o) fun id t => t.InRange id := by
  rw [placeholderType, Grows.get]
  split
  · next id hid => exact .pure hs (hs.placeholder id hid)
  · refine (grows_addUnnamed hs (.placeholder o)).bind fun id t ht _ hid => ?_
    have hle : t.Le { t with placeholder := some id } := .of_nodes rfl
    refine ⟨⟨ht.first, ht.typeOf, ?_, fun other node h => (ht.kinds other node h).mono hle⟩,
      hle, hid⟩
    intro type htype
    cases htype
    exact hid

/-! ### Kinds of schemas -/

/-- The promise of a visit. -/
def Visit.Lands (visit : Visit) (g : SchemaGraph) : Prop :=
  ∀ schema s, Sound g s → Grows g s (visit schema) (TypeGraph.Lands g schema)

variable {visit : Visit} (hvisit : visit.Lands g)

theorem grows_enumKind (hs : Sound g s) (n : SchemaNode) :
    Grows g s (enumKind n) fun kind t => KindSound t kind := by
  have hliteral : ∀ (value : Json) (t : Growth), KindSound t (.literal value) :=
    fun _ _ => KindSound.leaf rfl rfl fun _ h => by cases h
  simp only [enumKind]
  generalize (if n.standaloneName.isSome then _ else _ : Option (List EnumEntry)) = entries
  split
  · exact .pure hs (KindSound.leaf rfl rfl fun _ h => by cases h)
  · exact .pure hs (hliteral _ _)
  · have hliterals : ∀ values : List Json, Grows g s
        (values.mapM fun value => addUnnamed (.literal value)) fun ids t =>
          ∀ id ∈ ids, ∃ value ∈ values, t.InRange id := fun values =>
      .mapM (fun _ _ _ _ hle h => h.mono hle)
        (fun value _ t ht _ => grows_addUnnamed ht (hliteral value t)) hs
    refine (hliterals _).bind fun ids t ht _ hids => .pure ht (KindSound.union fun id hid => ?_)
    obtain ⟨-, -, hrange⟩ := hids id hid
    exact hrange

include hvisit

theorem grows_mapM_visit (hs : Sound g s) (schemas : List SchemaId) :
    Grows g s (schemas.mapM visit) fun types t =>
      ∀ type ∈ types, ∃ schema ∈ schemas, Lands g schema type t :=
  .mapM (fun _ _ _ _ hle h => h.mono hle) (fun schema _ t ht _ => hvisit schema t ht) hs

theorem grows_membersOf (hs : Sound g s) {make : String → SchemaId → TypeId → Member}
    (hmake : ∀ key schema type, (make key schema type).type = type) (entries : Dict SchemaId) :
    Grows g s (membersOf visit make entries) fun members t =>
      ∀ m ∈ members, t.InRange m.type := by
  have hmembers : Grows g s (membersOf visit make entries) fun members t =>
      ∀ m ∈ members, ∃ entry ∈ entries, t.InRange m.type := by
    refine .mapM (fun _ m _ _ hle h => h.mono hle) (fun entry _ t ht _ => ?_) hs
    refine (hvisit entry.2 t ht).bind fun type u hu _ hlands => .pure hu ?_
    rw [hmake]
    exact hlands.inRange
  refine hmembers.mono fun members t h m hm => ?_
  obtain ⟨-, -, hrange⟩ := h m hm
  exact hrange

theorem grows_additionalType (hs : Sound g s) (o : Options) (rest : Option Additional) :
    Grows g s (additionalType visit o rest) fun type t => ∀ id ∈ type, t.InRange id := by
  unfold additionalType
  split
  · exact (grows_placeholderType hs o).map fun id t hid _ h => by cases h; exact hid
  · exact (hvisit _ s hs).map fun id t hid _ h => by cases h; exact hid.inRange
  · exact .pure hs fun _ h => by cases h

theorem grows_recordKind (hs : Sound g s) (o : Options) (n : SchemaNode) {bases : List TypeId}
    (hbases : ∀ base ∈ bases, s.HasName base) :
    Grows g s (recordKind visit g o n bases) fun kind t => KindSound t kind := by
  unfold recordKind
  refine (grows_membersOf hvisit hs (fun _ _ _ => rfl) _).bind
    fun properties t ht hst hproperties => ?_
  refine (grows_membersOf hvisit ht (fun _ _ _ => rfl) _).bind
    fun patterns u hu htu hpatterns => ?_
  refine (grows_additionalType hvisit hu o _).bind fun additional v hv huv hadditional => ?_
  have hunreachable : Grows g v (membersOf visit (fun key _ type =>
      { key, type, isRequired := true, isUnreachable := true }) n.definitions) fun members w =>
        ∀ m ∈ members, w.InRange m.type := grows_membersOf hvisit hv (fun _ _ _ => rfl) _
  refine (hunreachable.listIf hv (by simp) _).bind fun unreachable w hw hvw hmembers => ?_
  refine .pure hw (KindSound.record ?_ ?_)
  · intro m hm
    simp only [List.mem_append, List.mem_map, Option.mem_toList] at hm
    rcases hm with ((hm | hm) | ⟨type, htype, rfl⟩) | hm
    · exact (hproperties m hm).mono (htu.trans (huv.trans hvw))
    · exact (hpatterns m hm).mono (huv.trans hvw)
    · exact (hadditional type htype).mono hvw
    · exact hmembers m hm
  · exact fun base hbase => (hbases base hbase).mono (hst.trans (htu.trans (huv.trans hvw)))

theorem grows_objectKind (hs : Sound g s) (o : Options) (n : SchemaNode) :
    Grows g s (objectKind visit g o n) fun kind t => KindSound t kind := by
  unfold objectKind
  split
  · exact grows_recordKind hvisit hs o n (by simp)
  · exact .pure hs (KindSound.leaf rfl rfl fun _ h => by cases h)

theorem grows_arrayKind (hs : Sound g s) (o : Options) (n : SchemaNode) :
    Grows g s (arrayKind visit o n) fun kind t => KindSound t kind := by
  simp only [arrayKind]
  split
  · refine (grows_mapM_visit hvisit hs _).bind fun elements t ht _ helements => ?_
    refine (grows_additionalType hvisit ht o _).bind fun spread u hu htu hspread => ?_
    have hrange : ∀ e ∈ elements, u.InRange e := by
      intro e he
      obtain ⟨schema, -, hlands⟩ := helements e he
      exact hlands.inRange.mono htu
    split
    · exact .pure hu (KindSound.tuple hrange hspread)
    · exact .pure hu (KindSound.tuple hrange hspread)
  · exact (hvisit _ s hs).bind fun element t ht _ helement =>
      .pure ht (KindSound.array helement.inRange)
  · refine (grows_placeholderType hs o).bind fun any t ht _ hany => ?_
    split
    · refine .pure ht (KindSound.tuple (fun e he => ?_) fun e he => ?_)
      · exact List.eq_of_mem_replicate he ▸ hany
      · split at he
        · cases he
          exact hany
        · cases he
    · exact .pure ht (KindSound.array hany)

theorem grows_namedKind (hs : Sound g s) (o : Options) (n : SchemaNode) (name : String) :
    Grows g s (namedKind visit g o n name) fun kind t => KindSound t kind := by
  unfold namedKind
  split
  case h_6 => exact grows_objectKind hvisit hs o n
  case h_7 => exact grows_arrayKind hvisit hs o n
  case h_8 => exact .pure hs (KindSound.placeholder o)
  all_goals exact .pure hs (KindSound.leaf rfl rfl fun _ h => by cases h)

theorem grows_ownFacet (hs : Sound g s) (o : Options) (n : SchemaNode) {bases : List TypeId}
    (hbases : ∀ base ∈ bases, s.HasName base) :
    Grows g s (ownFacet visit g o n bases) fun kind t => ∀ k ∈ kind, KindSound t k := by
  have some : ∀ {x : Growing TypeKind}, Grows g s x (fun kind t => KindSound t kind) →
      Grows g s (Option.some <$> x) fun kind t => ∀ k ∈ kind, KindSound t k :=
    fun hx => hx.map fun kind t h k hk => by cases hk; exact h
  unfold ownFacet
  split
  · exact some (grows_enumKind hs n)
  split
  · exact some (grows_recordKind hvisit hs o n hbases)
  split
  · split
    · exact some (grows_objectKind hvisit hs o n)
    split
    · exact some (grows_arrayKind hvisit hs o n)
    · exact .pure hs fun _ h => by cases h
  · exact some (grows_namedKind hvisit hs o n _)
  · have hmembers : Grows g s (n.types.mapM fun name => do
        let kind ← namedKind visit g o n name
        addUnnamed kind) fun ids t => ∀ id ∈ ids, ∃ name ∈ n.types, t.InRange id :=
      .mapM (fun _ _ _ _ hle h => h.mono hle) (fun name _ t ht _ =>
        (grows_namedKind hvisit ht o n name).bind fun kind u hu _ hkind =>
          grows_addUnnamed hu hkind) hs
    refine hmembers.bind fun ids t ht _ hids => ?_
    refine .pure ht fun k hk => ?_
    cases hk
    refine KindSound.union fun id hid => ?_
    obtain ⟨-, -, hrange⟩ := hids id hid
    exact hrange

theorem grows_groupFacet (hs : Sound g s) {make : List TypeId → TypeKind}
    (hmake : ∀ ids t, (∀ id ∈ ids, Growth.InRange t id) → KindSound t (make ids))
    (schemas : List SchemaId) :
    Grows g s (groupFacet visit make schemas) fun kinds t => ∀ k ∈ kinds, KindSound t k := by
  unfold groupFacet
  split
  · exact .pure hs (by simp)
  · refine (grows_mapM_visit hvisit hs schemas).bind fun ids t ht _ hids => ?_
    refine .pure ht fun k hk => ?_
    cases List.mem_singleton.1 hk
    refine hmake ids t fun id hid => ?_
    obtain ⟨schema, -, hlands⟩ := hids id hid
    exact hlands.inRange

theorem grows_facets (hs : Sound g s) (o : Options) (id : SchemaId) :
    Grows g s (facets visit g o id) fun kinds t => ∀ k ∈ kinds, KindSound t k := by
  have hunion : ∀ ids t, (∀ id ∈ ids, Growth.InRange t id) → KindSound t (.union ids) :=
    fun _ _ => KindSound.union
  have hall : ∀ ids t, (∀ id ∈ ids, Growth.InRange t id) → KindSound t (.intersection ids) :=
    fun _ _ => KindSound.intersection
  have hbases : Grows g s (listIf (hasBases g id) ((baseCandidates (g.node id)).mapM visit))
      fun bases t => ∀ base ∈ bases, t.HasName base := by
    cases hcondition : hasBases g id with
    | false => exact .pure hs (by simp)
    | true =>
      refine (grows_mapM_visit hvisit hs _).mono fun bases t hland base hbase => ?_
      obtain ⟨schema, hschema, hlands⟩ := hland base hbase
      refine hlands.named ?_
      simp only [hasBases, Bool.and_eq_true, List.all_eq_true] at hcondition
      exact (hcondition.2 schema hschema).1.2
  simp only [facets]
  refine hbases.bind fun bases t ht hst hbases => ?_
  refine (grows_ownFacet hvisit ht o _ hbases).bind fun own u hu htu hown => ?_
  refine ((grows_groupFacet hvisit hu hall _).listIf hu (by simp) _).bind
    fun all v hv huv hall' => ?_
  refine ((grows_groupFacet hvisit hv hall _).listIf hv (by simp) _).bind
    fun extended w hw hvw hextended => ?_
  refine (grows_groupFacet hvisit hw hunion _).bind fun any x hx hwx hany => ?_
  refine (grows_groupFacet hvisit hx hunion _).bind fun one y hy hxy hone => ?_
  refine .pure hy fun k hk => ?_
  simp only [List.mem_append, Option.mem_toList] at hk
  rcases hk with (((hk | hk) | hk) | hk) | hk
  · exact (hown k hk).mono (huv.trans (hvw.trans (hwx.trans hxy)))
  · exact (hall' k hk).mono (hvw.trans (hwx.trans hxy))
  · exact (hextended k hk).mono (hwx.trans hxy)
  · exact (hany k hk).mono hxy
  · exact hone k hk

theorem grows_kindOf (hs : Sound g s) (o : Options) (id : SchemaId) :
    Grows g s (kindOf visit g o id) fun kind t => KindSound t kind := by
  simp only [kindOf]
  split
  · exact .pure hs (KindSound.placeholder o)
  · exact .pure hs (KindSound.leaf rfl rfl fun _ h => by cases h)
  · exact .pure hs (KindSound.leaf rfl rfl fun _ h => by cases h)
  · refine (grows_facets hvisit hs o id).bind fun kinds t ht _ hkinds => ?_
    split
    · exact .pure ht (KindSound.placeholder o)
    · exact .pure ht (hkinds _ (List.mem_singleton_self _))
    · have hmembers : Grows g t (kinds.mapM addUnnamed) fun ids u =>
          ∀ id ∈ ids, ∃ kind ∈ kinds, u.InRange id :=
        .mapM (fun _ _ _ _ hle h => h.mono hle)
          (fun kind hkind u hu htu => grows_addUnnamed hu ((hkinds kind hkind).mono htu)) ht
      refine hmembers.bind fun ids u hu _ hids => ?_
      refine .pure hu (KindSound.intersection fun id hid => ?_)
      obtain ⟨-, -, hrange⟩ := hids id hid
      exact hrange

omit hvisit

/-- **Making the type of a schema keeps soundness.**  Without levels the first type stands in, which
has a name. -/
theorem lands_ofNode (g : SchemaGraph) (o : Options) (levels : Nat) :
    Visit.Lands (ofNode g o levels) g := by
  refine ofNode_rule (P := fun _ _ s => Sound g s)
    (Q := fun _ schema s type t => Sound g t ∧ s.Le t ∧ Lands g schema type t)
    ?found ?out ?new levels
  case found =>
    intro levels schema s type hs htype
    exact ⟨hs, .refl s, hs.lands htype⟩
  case out =>
    intro schema s hs _
    exact ⟨hs, .refl s, hs.first.inRange, fun _ => hs.first⟩
  case new =>
    intro levels schema s ih hs _
    have hreserve : Grows g s (reserve schema (reservedNode (g.node schema))) _ :=
      grows_reserve hs rfl (KindSound.leaf rfl rfl fun _ h => by cases h)
    obtain ⟨ht, hst, htype⟩ := hreserve
    obtain ⟨hu, htu, hkind⟩ := grows_kindOf ih ht o schema
    obtain ⟨hv, huv, -⟩ := grows_settle hu s.nodes.size hkind
    have hlands : Lands g schema s.nodes.size (s.reserving g schema) :=
      ⟨(Array.getElem?_eq_some_iff.1 htype).1, fun hname => ⟨_, htype, hname⟩⟩
    exact ⟨hv, hst.trans (htu.trans huv), hlands.mono (htu.trans huv)⟩

/-! ### Graphs of types -/

/-- **A well-formed graph of types**, as it is before types are merged: parts are in range, the
bases of classes have names, and there are no references. -/
structure WellFormed (t : TypeGraph) : Prop where
  root : t.root < t.size
  inRange : ∀ id, ∀ part ∈ t.children id, part < t.size
  bases : ∀ id members bases, t.kind id = .record members bases →
    ∀ base ∈ bases, (t.name? base).isSome
  noReference : ∀ id target, t.kind id ≠ .reference target

/-- A sound state is a well-formed graph. -/
theorem Sound.wellFormed (hs : Sound g s) {root : TypeId} (hroot : s.InRange root) :
    WellFormed ⟨s.nodes, root⟩ := by
  have hkind : ∀ id, KindSound s (TypeGraph.kind ⟨s.nodes, root⟩ id) := by
    intro id
    rw [TypeGraph.kind, TypeGraph.node]
    cases hnode : s.nodes[id]? with
    | none => exact KindSound.leaf rfl rfl fun _ h => by cases h
    | some node => exact hs.kinds id node hnode
  refine ⟨hroot, fun id part hpart => (hkind id).inRange part hpart, ?_,
    fun id => (hkind id).noReference⟩
  intro id members bases hrecord base hbase
  obtain ⟨node, hnode, hname⟩ := (hkind id).bases members bases hrecord base hbase
  rw [name?, TypeGraph.node, hnode]
  exact hname

/-- The state when the type of the root is reserved. -/
def Growth.start (g : SchemaGraph) : Growth where
  nodes := #[reservedNode (g.node g.root)]
  typeOf := [(g.root, 0)]

theorem sound_start (hname : (g.node g.root).standaloneName.isSome) : Sound g (.start g) := by
  refine ⟨⟨_, rfl, hname⟩, ?_, fun _ h => (by cases h), ?_⟩
  · intro schema type htype
    rw [Growth.start, List.lookup_cons] at htype
    split at htype
    · next heq =>
      cases htype
      exact ⟨_, rfl, by rw [eq_of_beq heq]; rfl⟩
    · cases htype
  · intro id node hnode
    rw [Growth.start, List.getElem?_toArray, List.getElem?_singleton] at hnode
    split at hnode
    · cases hnode
      exact KindSound.leaf rfl rfl fun _ h => by cases h
    · cases hnode

/-- **How the types of a graph are made**: the root's is the first, and the rest is a growth from
it. -/
theorem exists_growth_ofSchema {g : SchemaGraph} (o : Options) (hroot : g.root < g.size)
    (hname : (g.node g.root).standaloneName.isSome) :
    ∃ s : Growth, Sound g s ∧ (Growth.start g).Le s ∧ ofSchema g o = ⟨s.nodes, 0⟩ := by
  obtain ⟨levels, hlevels⟩ := Nat.exists_eq_add_of_lt (Nat.zero_lt_of_lt hroot)
  have hrest : Grows g (.start g) (do
      let kind ← kindOf (ofNode g o levels) g o g.root
      settle 0 kind) fun _ _ => True := by
    refine (grows_kindOf (lands_ofNode g o levels) (sound_start hname) o g.root).bind
      fun kind t ht _ hkind => ?_
    exact grows_settle ht 0 hkind
  refine ⟨_, hrest.1, hrest.2.1, ?_⟩
  unfold ofSchema
  rw [hlevels, Nat.zero_add, ofNode]
  rfl

/-- **The types of a graph whose root has a name are well-formed.** -/
theorem wellFormed_ofSchema {g : SchemaGraph} (o : Options) (hroot : g.root < g.size)
    (hname : (g.node g.root).standaloneName.isSome) : (ofSchema g o).WellFormed := by
  obtain ⟨s, hs, -, heq⟩ := exists_growth_ofSchema o hroot hname
  rw [heq]
  exact hs.wellFormed hs.first.inRange

/-- The type of the root has the name of the root. -/
theorem name?_root_ofSchema {g : SchemaGraph} (o : Options) (hroot : g.root < g.size)
    (hname : (g.node g.root).standaloneName.isSome) :
    (ofSchema g o).name? (ofSchema g o).root = (g.node g.root).standaloneName := by
  obtain ⟨s, -, hle, heq⟩ := exists_growth_ofSchema o hroot hname
  obtain ⟨node, hnode, hsame⟩ := hle 0 (reservedNode (g.node g.root)) rfl
  rw [heq, name?, TypeGraph.node, show (TypeGraph.nodes ⟨s.nodes, 0⟩)[0]? = some node from hnode,
    Option.getD_some, hsame]
  rfl

end TypeGraph
end SchemaTypings
