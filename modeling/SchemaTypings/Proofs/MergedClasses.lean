import SchemaTypings.Proofs.Merging
import SchemaTypings.Proofs.Sieve

/-! # Merged classes admit what they did

A class that repeats the structure of an earlier one becomes a reference to that one's name.  The
structure of a class is its body and the texts of its bases, so two classes of one structure admit
the same values, as long as no class with bases is written out in them.
-/
namespace SchemaTypings
namespace TypeGraph

variable {g : TypeGraph} {o : Options}

/-! ### The text of a class -/

/-- The structure of a class: its body and its bases. -/
def classText (g : TypeGraph) (o : Options) (id : TypeId) : String :=
  "class " ++ (g.phrase o id).text ++ " extends " ++
    ", ".intercalate ((g.kind id).bases.map fun base => (g.usePhrase o base).text)

/-- The structure of a class is made from its own text and the texts of its bases. -/
theorem CyclesNamed.after_structureText (hg : g.CyclesNamed) (o : Options) {id : TypeId}
    {members : List Member} {bases : List TypeId} (hkind : g.kind id = .record members bases)
    {s : Texts} (hs : g.Recalls o s) :
    After (structureText g o id) s fun text t => g.Recalls o t ∧
      text = "class " ++ g.ownText o id ++ " extends " ++
        ", ".intercalate (bases.map (g.usedText o)) := by
  rw [structureText, hkind]
  refine after_bind.2 ((after_mapM_map (fun base _ s hs => hg.after_render o base hs) hs).mono
    fun texts t ⟨ht, htexts⟩ => after_bind.2 ?_)
  refine (hg.after_renderRaw o id ht).mono fun body u ⟨hu, hbody⟩ => after_pure.2 ⟨hu, ?_⟩
  rw [htexts, hbody]

theorem Legible.after_structureText (hg : g.Legible) {id : TypeId}
    (hrecord : (g.kind id).isRecord = true) (hid : id < g.size) {s : Texts}
    (hs : g.Recalls o s) :
    After (structureText g o id) s fun text t => g.Recalls o t ∧ text = g.classText o id := by
  obtain ⟨members, bases, hkind⟩ := TypeKind.eq_record hrecord
  have hbases : ∀ base ∈ bases, base < g.size := fun base hbase =>
    hg.parts id base (mem_children_of_mem_bases (by rw [hkind]; exact hbase))
  have hused : bases.map (g.usedText o) = bases.map fun base => (g.usePhrase o base).text :=
    List.map_congr_left fun base hbase => hg.usedText_eq o (hbases base hbase)
  refine (hg.cycles.after_structureText o hkind hs).mono fun text t ⟨ht, htext⟩ => ⟨ht, ?_⟩
  rw [htext, hused, hg.ownText_eq o hid, classText, hkind]
  rfl

/-- The structure of a class is read back: its body, and its bases in order. -/
theorem Legible.eq_of_classText_eq (hg : g.Legible) {a b : TypeId}
    (ha : (g.kind a).isRecord = true) (hb : (g.kind b).isRecord = true)
    (h : g.classText o a = g.classText o b) :
    g.phrase o a = g.phrase o b ∧
      (g.kind a).bases.map (g.usePhrase o) = (g.kind b).bases.map (g.usePhrase o) := by
  have hclosed : ∀ id, (g.kind id).isRecord = true → Phrase.Proper .closed (g.phrase o id) := by
    intro id hrecord
    obtain ⟨members, bases, hkind⟩ := TypeKind.eq_record hrecord
    have hproper := hg.proper_phrase o id
    rw [hg.phrase_eq, hkind, Phrase.ofKind] at hproper ⊢
    rcases hproper.cases_open with hclosed | ⟨ps, heq, -⟩
    · exact hclosed
    · cases heq
  have hchars := congrArg String.toList h
  simp only [classText, String.toList_append, List.append_assoc, List.append_cancel_left_eq]
    at hchars
  have hends : ∀ x : List Char, Phrase.Ends (" extends ".toList ++ x) := fun x =>
    Phrase.ends_of_head (by decide)
  obtain ⟨hbody, hrest⟩ := (hclosed a ha).readable.closed_eq (hclosed b hb) (hends _) (hends _)
    hchars
  refine ⟨hbody, ?_⟩
  -- lists of bases are read back as tuples are
  have htext : ∀ id, (Phrase.tuple ((g.kind id).bases.map (g.usePhrase o))).text =
      "[" ++ ", ".intercalate ((g.kind id).bases.map fun base => (g.usePhrase o base).text) ++
        "]" := by
    intro id
    rw [Phrase.text, List.map_map]
    rfl
  have hproper : ∀ id, Phrase.Proper .open (.tuple ((g.kind id).bases.map (g.usePhrase o))) := by
    refine fun id => .tight (.tuple fun p hp => ?_)
    obtain ⟨base, -, rfl⟩ := List.mem_map.1 hp
    exact .item (hg.proper_usePhrase o base)
  have htuple := Phrase.eq_of_text_eq (hproper a) (hproper b) (by
    rw [htext, htext, String.toList_inj.1 (List.append_cancel_left hrest)])
  exact Phrase.tuple.inj htuple

/-! ### Classes of one structure -/

/-- **Everything that a class asks for is in its structure**: no class with bases is written out in
its members or in its bases. -/
structure ShowsAll (g : TypeGraph) (id : TypeId) : Prop where
  body : ∀ m, Relation.TransGen g.Inlines id m → (g.kind m).bases = []
  bases : ∀ base ∈ (g.kind id).bases, g.name? base = none → ¬ g.HidesBases base

theorem name?_of_inlined {a b : TypeId} (h : Relation.TransGen g.Inlines a b) :
    g.name? b = none := by
  obtain ⟨c, -, hcb⟩ := Relation.TransGen.tail'_iff.1 h
  exact hcb.2

/-- **Classes of one structure admit the same values**, where the types without names satisfy their
equations. -/
theorem Describable.meaning_eq_of_classText_eq (hg : g.Describable) {P : TypeId → Set Json}
    (hP : ∀ m, g.name? m = none → P m = g.meaning P m) {a b : TypeId}
    (ha : (g.kind a).isRecord = true) (hb : (g.kind b).isRecord = true) (hshowsa : g.ShowsAll a)
    (hshowsb : g.ShowsAll b) (h : g.classText o a = g.classText o b) :
    g.meaning P a = g.meaning P b := by
  obtain ⟨hbody, hbases⟩ := hg.legible.eq_of_classText_eq ha hb h
  have hvalues : ∀ id, g.ShowsAll id → (g.phrase o id).values g.literals (g.bearing P) =
      kindValues (g.bearing P) P (g.kind id).body := by
    intro id hshows
    refine hg.values_phrase o fun m hm => ?_
    exact ⟨hP m (name?_of_inlined hm), hshows.body m hm⟩
  have hbase : ∀ id, g.ShowsAll id → ∀ base ∈ (g.kind id).bases,
      (g.usePhrase o base).values g.literals (g.bearing P) = P base := by
    intro id hshows base hmem
    refine hg.values_usePhrase o fun hname m hm => ?_
    refine fits_of_not_hidesBases (hshows.bases base hmem hname) hm (hP m ?_)
    exact (unnamedStep_of_writesOut hname hm).1
  -- a class admits what its body admits and what the phrases of its bases admit
  have hrecord : ∀ id, (g.kind id).isRecord = true → g.ShowsAll id → g.meaning P id =
      (g.phrase o id).values g.literals (g.bearing P) ∩
        {v | ∀ p ∈ (g.kind id).bases.map (g.usePhrase o), v ∈ p.values g.literals (g.bearing P)} := by
    intro id hisRecord hshows
    rw [hvalues id hshows, meaning]
    obtain ⟨members, bases, hkind⟩ := TypeKind.eq_record hisRecord
    have hbase := hbase id hshows
    rw [hkind] at hbase ⊢
    refine Set.ext fun v => and_congr ?_ ⟨fun hv p hp => ?_, fun hv base hmem => ?_⟩
    · exact ⟨fun hv => ⟨hv, fun base hmem => absurd hmem List.not_mem_nil⟩, And.left⟩
    · obtain ⟨base, hmem, rfl⟩ := List.mem_map.1 hp
      rw [hbase base hmem]
      exact hv base hmem
    · rw [← hbase base hmem]
      exact hv _ (List.mem_map.2 ⟨base, hmem, rfl⟩)
  rw [hrecord a ha hshowsa, hrecord b hb hshowsb, hbody, hbases]

/-! ### Merging -/

/-- **Merging loses nothing**: the classes that are merged show all they ask for, and no reference
asks for a name that goes. -/
structure MergesPlainly (g : TypeGraph) (o : Options) : Prop where
  shown : ∀ r ∈ g.classReplacements o, ∀ k, k = r.id ∨ g.name? k = some r.target → g.ShowsAll k
  unreferenced : ∀ r ∈ g.classReplacements o, ∀ name, g.name? r.id = some name →
    ∀ id, g.kind id ≠ .reference name

/-- **What a merged class refers to** is a class of the same structure, which stays. -/
theorem Describable.exists_target (hg : g.Describable) {r : Replacement}
    (hr : r ∈ g.classReplacements o) :
    ∃ k, g.name? k = some r.target ∧ ¬ IsReplaced (g.classReplacements o) k ∧
      (g.kind r.id).isRecord = true ∧ (g.kind k).isRecord = true ∧
      g.classText o r.id = g.classText o k := by
  have hrecords : ∀ id ∈ g.reachable.filter fun id => (g.kind id).isRecord,
      (g.kind id).isRecord = true := fun id hid => (List.mem_filter.1 hid).2
  have hshape : ∀ b ∈ g.classBearers o, b.shape = g.classText o b.id :=
    (after_bearersOf (fun id hid _ hname _ hs => hg.legible.after_structureText (hrecords id hid)
      (lt_size_of_name? hname) hs) (recalls_nil g o)).2
  have hbearer : ∀ b ∈ g.classBearers o,
      (g.kind b.id).isRecord = true ∧ g.name? b.id = some b.name := fun b hb =>
    ⟨hrecords _ (mem_bearersOf hb).1, (mem_bearersOf hb).2⟩
  obtain ⟨-, b, hb, a, ha, hfind, hab, hne, rfl⟩ := exists_of_mem_classReplacements hr
  refine ⟨a.id, (hbearer a ha).2, ?_, (hbearer b hb).1, (hbearer a ha).1, ?_⟩
  · -- the first class of a structure is not replaced
    rintro ⟨r', hr', hid⟩
    obtain ⟨-, c, hc, d, -, hfind', -, hne', rfl⟩ := exists_of_mem_classReplacements hr'
    have hcb : c.shape = b.shape := by
      rw [hshape c hc, show c.id = a.id from hid, ← hshape a ha, hab]
    rw [hcb, hfind] at hfind'
    have hnames := (hbearer c hc).2
    rw [show c.id = a.id from hid, (hbearer a ha).2] at hnames
    exact hne' (by rw [← Option.some.inj hfind', Option.some.inj hnames])
  · rw [← hshape b hb, ← hshape a ha, hab]

theorem kindValues_congr_named {named named' : String → Set Json} {P : TypeId → Set Json}
    {kind : TypeKind} (h : ∀ target, kind = .reference target → named target = named' target) :
    kindValues named P kind = kindValues named' P kind := by
  cases kind with
  | reference target => exact h target rfl
  | _ => rfl

/-- A type without a name is not replaced. -/
theorem not_isReplaced_of_unnamed {m : TypeId} (hm : g.name? m = none) :
    ¬ IsReplaced (g.classReplacements o) m := by
  rintro ⟨r, hr, rfl⟩
  have hnamed := name?_of_mem_classReplacements hr
  rw [hm] at hnamed
  cases hnamed

/-- A replaced class admits what the class of its target admits. -/
theorem meaning_mergeClasses_of_replaced {m : TypeId} (hm : IsReplaced (g.classReplacements o) m) :
    ∃ r ∈ g.classReplacements o, r.id = m ∧ ∀ P,
      ((g.classReplacements o).foldl replace g).meaning P m =
        ((g.classReplacements o).foldl replace g).bearing P r.target := by
  obtain ⟨name, hname⟩ := Option.ne_none_iff_exists'.1 fun hnone =>
    not_isReplaced_of_unnamed hnone hm
  obtain ⟨r, hr, hid, hkind⟩ := kind_foldl_replace_of_replaced (lt_size_of_name? hname) hm
  refine ⟨r, hr, hid, fun P => ?_⟩
  rw [meaning, hkind]
  rfl

/-- **The class of a target** is one that stays, and is asked for what the replaced class is. -/
theorem Describable.exists_bearing (hg : g.Describable) (h : g.MergesPlainly o)
    {P : TypeId → Set Json} (hP : ∀ m, g.name? m = none → P m = g.meaning P m) {r : Replacement}
    (hr : r ∈ g.classReplacements o) : ∃ k, ¬ IsReplaced (g.classReplacements o) k ∧
      ((g.classReplacements o).foldl replace g).bearing P r.target = P k ∧
      g.meaning P r.id = g.meaning P k := by
  obtain ⟨k, hk, hkept, hrrecord, hkrecord, htext⟩ := hg.exists_target hr
  refine ⟨k, hkept, Set.ext fun v => ⟨?_, fun hv => ⟨k, ?_, hv⟩⟩, ?_⟩
  · rintro ⟨other, hother, hv⟩
    rw [hg.distinct k other r.target hk (name?_foldl_replace_eq_some.1 hother).2]
    exact hv
  · exact name?_foldl_replace_eq_some.2 ⟨hkept, hk⟩
  · exact hg.meaning_eq_of_classText_eq hP hrrecord hkrecord (h.shown r hr r.id (Or.inl rfl))
      (h.shown r hr k (Or.inr hk)) htext

/-- What stays satisfies its old equation. -/
theorem MergesPlainly.values_eq_meaning (h : g.MergesPlainly o) {m : TypeId}
    (hm : ¬ IsReplaced (g.classReplacements o) m) :
    ((g.classReplacements o).foldl replace g).values m =
      g.meaning ((g.classReplacements o).foldl replace g).values m := by
  rw [← meaning_values, meaning, kind_foldl_replace_of_not hm]
  refine kindValues_congr_named fun target hreference => Set.ext fun v => ?_
  constructor
  · rintro ⟨other, hother, hv⟩
    exact ⟨other, (name?_foldl_replace_eq_some.1 hother).2, hv⟩
  · rintro ⟨other, hother, hv⟩
    refine ⟨other, name?_foldl_replace_eq_some.2 ⟨?_, hother⟩, hv⟩
    rintro ⟨r, hr, rfl⟩
    exact h.unreferenced r hr target hother m hreference

/-- **Merging classes keeps what all types admit.** -/
theorem Describable.values_mergeClasses (hg : g.Describable) (h : g.MergesPlainly o) (id : TypeId) :
    ((g.classReplacements o).foldl replace g).values id = g.values id := by
  have hold : ∀ m, g.values m = g.meaning g.values m := fun m => (meaning_values g m).symm
  -- each solution satisfies the equations of the other graph
  refine Set.Subset.antisymm (values_subset (fun m => ?_) id) (values_subset (fun m => ?_) id)
  · by_cases hm : IsReplaced (g.classReplacements o) m
    · obtain ⟨r, hr, rfl, hmeaning⟩ := meaning_mergeClasses_of_replaced hm
      obtain ⟨k, -, hbearing, heq⟩ := hg.exists_bearing h (fun m _ => hold m) hr
      rw [hmeaning, hbearing, hold k, ← heq, ← hold r.id]
    · rw [meaning, kind_foldl_replace_of_not hm, hold m]
      refine kindValues_mono (fun name => ?_) (fun _ => subset_rfl) _
      rintro v ⟨other, hother, hv⟩
      exact ⟨other, (name?_foldl_replace_eq_some.1 hother).2, hv⟩
  · by_cases hm : IsReplaced (g.classReplacements o) m
    · obtain ⟨r, hr, rfl, hmeaning⟩ := meaning_mergeClasses_of_replaced hm
      obtain ⟨k, hkept, hbearing, heq⟩ := hg.exists_bearing h
        (fun m hm => h.values_eq_meaning (not_isReplaced_of_unnamed hm)) hr
      rw [heq, ← h.values_eq_meaning hkept, ← hbearing, ← hmeaning, meaning_values]
    · exact (h.values_eq_meaning hm).symm.subset

/-- Types of distinct names are not merged by name. -/
theorem Describable.nameReplacements_eq_nil (hg : g.Describable) (o : Options) :
    g.nameReplacements o = [] := by
  rw [nameReplacements, repeats_bearers_eq_nil o fun id other name _ _ => hg.distinct id other name]

end TypeGraph
end SchemaTypings
