import SchemaTypings.Proofs.Merging
import SchemaTypings.Proofs.Simplification

/-! # Whether every name that is used is declared

Merging decides on the types that are reached before it, and replaces types afterwards.  A type that
is replaced loses its parts, and with them may go the one type that keeps the name of others.  The
output is closed exactly when this does not happen: when every replacement that is reached asks for
a name whose first bearer is reached without passing a replaced type, and is not replaced itself.
-/
namespace SchemaTypings
namespace TypeGraph

/-- Some type that is reached has the name. -/
def Declares (g : TypeGraph) (name : String) : Prop :=
  ∃ id, g.Reached id ∧ g.name? id = some name

/-- **Closed**: every name written for a type that is reached is the name of a type that is
reached, be it written for a part, for a reference or behind `extends`. -/
structure Closed (g : TypeGraph) (o : Options) : Prop where
  parts : ∀ id, g.Reached id → ∀ part ∈ g.children id, ∀ name, g.name? part = some name →
    g.Declares name
  references : ∀ id, g.Reached id → ∀ target, g.kind id = .reference target → g.Declares target
  bases : ∀ id, g.Reached id → ∀ members bases, g.kind id = .record members bases →
    ∀ base ∈ bases, g.Declares ((g.render o base).run []).1

/-- Whether some reference that is reached asks for a name that no type reached has. -/
def hasOpenReference (g : TypeGraph) : Bool :=
  g.reachable.any fun id =>
    match g.kind id with
    | .reference target => g.reachable.all fun other => g.name? other ≠ some target
    | _ => false

theorem not_closed_of_hasOpenReference {g : TypeGraph} {o : Options}
    (h : g.hasOpenReference = true) : ¬ g.Closed o := by
  intro hclosed
  obtain ⟨id, hid, hopen⟩ := List.any_eq_true.1 h
  split at hopen
  · next target hkind =>
    obtain ⟨other, hother, hname⟩ :=
      hclosed.references id ((mem_reachable_iff g id).1 hid) target hkind
    have hne := List.all_eq_true.1 hopen other ((mem_reachable_iff g other).2 hother)
    exact absurd hname (by simpa using hne)
  · cases hopen

/-- Where no reference is open, each that is reached asks for the name of a type that is reached. -/
theorem declares_of_hasOpenReference {g : TypeGraph} (h : g.hasOpenReference = false)
    {id : TypeId} (hid : g.Reached id) {target : String} (hkind : g.kind id = .reference target) :
    g.Declares target := by
  have hclosed := List.any_eq_false.1 h id ((mem_reachable_iff g id).2 hid)
  rw [hkind] at hclosed
  simp only [Bool.not_eq_true, List.all_eq_false, decide_eq_true_eq, Decidable.not_not]
    at hclosed
  obtain ⟨other, hother, hname⟩ := hclosed
  exact ⟨other, (mem_reachable_iff g other).1 hother, hname⟩

/-- **Targets are kept**: where a replacement is reached, the first bearer of the name that it asks
for is reached as well and stays. -/
def KeepsTargets (g : TypeGraph) (o : Options) : Prop :=
  ∀ r ∈ g.replacements o, g.ReachedAround (IsReplaced (g.replacements o)) r.id →
    ∃ first, g.firstBearer? r.target = some first ∧
      g.ReachedAround (IsReplaced (g.replacements o)) first ∧
      ¬ IsReplaced (g.replacements o) first

/-- A type with a name is written as its name. -/
theorem render_of_name {g : TypeGraph} {o : Options} {id : TypeId} {name : String}
    (h : g.name? id = some name) (texts : Texts) : ((g.render o id).run texts).1 = name := by
  unfold render useText
  rw [h]
  rfl

/-- A reference without a name is written as its target. -/
theorem render_of_reference {g : TypeGraph} {o : Options} {id : TypeId} {target : String}
    (hid : id < g.size) (hname : g.name? id = none) (hkind : g.kind id = .reference target) :
    ((g.render o id).run []).1 = target := by
  unfold render useText
  rw [hname]
  have hraw : g.renderRaw o id = pure target := by
    rw [renderRaw, rawText, dif_pos ⟨hid, by simp⟩, hkind]
    rfl
  rw [hraw]
  rfl

variable {g h : TypeGraph} {o : Options}

/-- What is declared in the optimized graph. -/
theorem declares_foldl_replace {rs : List Replacement} {name : String} :
    (rs.foldl replace g).Declares name ↔
      ∃ id, g.ReachedAround (IsReplaced rs) id ∧ ¬ IsReplaced rs id ∧ g.name? id = some name := by
  constructor
  · rintro ⟨id, hid, hname⟩
    rw [reached_foldl_replace_iff] at hid
    exact ⟨id, hid, name?_foldl_replace_eq_some.1 hname⟩
  · rintro ⟨id, hid, hname⟩
    exact ⟨id, (reached_foldl_replace_iff ..).2 hid, name?_foldl_replace_eq_some.2 hname⟩

/-- A target that is kept is declared. -/
theorem KeepsTargets.declares (hkeeps : g.KeepsTargets o) {r : Replacement}
    (hr : r ∈ g.replacements o) (hreached : g.ReachedAround (IsReplaced (g.replacements o)) r.id) :
    ((g.replacements o).foldl replace g).Declares r.target := by
  obtain ⟨first, hfirst, haround, hkept⟩ := hkeeps r hr hreached
  have hname : g.name? first = some r.target := by simpa using List.find?_some hfirst
  exact declares_foldl_replace.2 ⟨first, haround, hkept, hname⟩

/-- **When the optimized graph is closed.**  `g` is a simplified graph without references, in which
the bases of classes have names. -/
theorem closed_iff_keepsTargets (hok : ∃ rs, repeats g [] (g.bearers o) = .ok rs)
    (hreference : ∀ id target, g.kind id ≠ .reference target)
    (hbases : ∀ id members bases, g.kind id = .record members bases →
      ∀ base ∈ bases, base < g.size ∧ (g.name? base).isSome) :
    ((g.replacements o).foldl replace g).Closed o ↔ g.KeepsTargets o := by
  obtain ⟨rs, hrs⟩ := hok
  have hnames : g.nameReplacements o = rs := by rw [nameReplacements, hrs]
  constructor
  · intro hclosed r hr haround
    have hreached := (reached_foldl_replace_iff g (g.replacements o) r.id).2 haround
    have hkind := kind_of_mem_replacements hr (haround.reached.lt_size)
    obtain ⟨id, hid, hkept, hname⟩ := declares_foldl_replace.1
      (hclosed.references r.id hreached r.target hkind)
    refine ⟨id, ?_, hid, hkept⟩
    refine firstBearer?_eq_some hrs hid.reached hname fun hreplaced => hkept ?_
    exact isReplaced_append.2 (Or.inl (hnames ▸ hreplaced))
  · intro hkeeps
    -- a type that is replaced is written as the name that its replacement asks for
    have hreplaced : ∀ id, IsReplaced (g.replacements o) id →
        ((g.replacements o).foldl replace g).Reached id → ∃ target,
          ((g.replacements o).foldl replace g).kind id = .reference target ∧
            ((g.replacements o).foldl replace g).Declares target := by
      rintro _ ⟨r, hr, rfl⟩ hreached
      rw [reached_foldl_replace_iff] at hreached
      exact ⟨r.target, kind_of_mem_replacements hr hreached.reached.lt_size,
        hkeeps.declares hr hreached⟩
    refine ⟨?_, ?_, ?_⟩
    · intro id hid part hpart name hname
      have hlt := lt_size_of_name? hname
      exact ⟨part, .part hid hpart hlt, hname⟩
    · intro id hid target hkind
      by_cases hr : IsReplaced (g.replacements o) id
      · obtain ⟨target', hkind', hdeclares⟩ := hreplaced id hr hid
        rw [hkind] at hkind'
        cases hkind'
        exact hdeclares
      · rw [kind_foldl_replace_of_not hr] at hkind
        exact absurd hkind (hreference id target)
    · intro id hid members bases hkind base hbase
      have hr : ¬ IsReplaced (g.replacements o) id := by
        intro hr
        obtain ⟨target, hkind', -⟩ := hreplaced id hr hid
        rw [hkind] at hkind'
        cases hkind'
      have hpart : base ∈ ((g.replacements o).foldl replace g).children id := by
        rw [children, hkind]
        exact List.mem_append_right _ hbase
      rw [kind_foldl_replace_of_not hr] at hkind
      obtain ⟨hlt, hnamed⟩ := hbases id members bases hkind base hbase
      have hreached : ((g.replacements o).foldl replace g).Reached base :=
        .part hid hpart (by rw [size_foldl_replace]; exact hlt)
      by_cases hbaseReplaced : IsReplaced (g.replacements o) base
      · obtain ⟨target, htarget, hdeclares⟩ := hreplaced base hbaseReplaced hreached
        rw [render_of_reference (by rw [size_foldl_replace]; exact hlt)
          (name?_foldl_replace_of_replaced hbaseReplaced) htarget]
        exact hdeclares
      · obtain ⟨name, hname⟩ := Option.isSome_iff_exists.1 hnamed
        have hname' := (name?_foldl_replace_of_not hbaseReplaced).trans hname
        rw [render_of_name hname']
        exact ⟨base, hreached, hname'⟩

end TypeGraph
end SchemaTypings
