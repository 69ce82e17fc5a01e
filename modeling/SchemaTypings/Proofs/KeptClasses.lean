import SchemaTypings.Proofs.ClassTexts
import SchemaTypings.Proofs.Closure
import SchemaTypings.Proofs.FinishedOperations
import SchemaTypings.Proofs.RootName
import SchemaTypings.Proofs.SuperTypes

/-! # Classes that are kept

A class that stands in a union of kinds that names stand for, or comes first in the intersection at
the root, is kept by simplification: its text alone ends with a brace, and nothing comes before it
that could be written alike.  Only a name beside it may stand for the same.  What such a class
refers to is reached in the optimized graph, and the names there are declared unless merging leaves
a reference open.
-/
namespace SchemaTypings

/-- Whether a name under `type` can stand for a kind. -/
def TypeKind.isBasic : TypeKind → Bool
  | .null | .boolean | .number | .string | .object | .array _ | .tuple .. | .record .. => true
  | _ => false

/-- Of several texts that are put together the last one ends the whole. -/
theorem exists_intercalate_append_singleton (separator : String) (front : List String)
    (last : String) :
    ∃ before, separator.intercalate (front ++ [last]) = before ++ last := by
  cases front with
  | nil => exact ⟨"", by simp⟩
  | cons first rest =>
    refine ⟨separator.intercalate (first :: rest) ++ separator, ?_⟩
    rw [String.intercalate_append_of_ne_nil (by simp) (by simp), String.intercalate_singleton]

namespace TypeGraph

variable {g h : TypeGraph} {o : Options} {id : TypeId}

/-! ### How texts end -/

/-- Among the kinds that names stand for, classes are told by the brace at the end of their text. -/
def EndsAs (kind : TypeKind) (text : String) : Prop :=
  kind.isBasic = true → (text.toList.getLast? = some '\x7d' ↔ kind.isRecord = true)

theorem getLast?_of_append {text before after : String} {c : Char} (h : text = before ++ after)
    (hlast : after.toList.getLast? = some c) : text.toList.getLast? = some c := by
  rw [h, String.toList_append, List.getLast?_append, hlast]
  rfl

theorem getLast?_tupleText (elements : List String) (spread : Option String) :
    (tupleText elements spread).toList.getLast? = some ']' := getLast?_of_append rfl rfl

theorem getLast?_boundedText (placeholder : String) (elements : List String) (min : Nat)
    (max : Option Nat) (spread : Option String) :
    (boundedText placeholder elements min max spread).toList.getLast? = some ']' := by
  unfold boundedText tupleShapes
  rw [List.map_append, List.map_singleton]
  obtain ⟨before, hbefore⟩ := exists_intercalate_append_singleton _ _ _
  exact getLast?_of_append hbefore (getLast?_tupleText _ _)

theorem getLast?_recordText (signatures : List String) :
    (recordText signatures).toList.getLast? = some '\x7d' := by
  obtain ⟨cs, hcs⟩ := exists_toList_recordText signatures
  rw [hcs, List.getLast?_append]
  rfl

/-- A text that ends otherwise is that of no class. -/
theorem endsAs_of_getLast? {kind : TypeKind} {text : String} {c : Char}
    (hlast : text.toList.getLast? = some c) (hc : c ≠ '\x7d') (hkind : kind.isRecord = false) :
    EndsAs kind text := by
  intro _
  rw [hlast, hkind]
  exact ⟨fun h => absurd (Option.some.inj h) hc, fun h => nomatch h⟩

/-- The text of a kind ends as the kind does, whatever the texts of its parts are. -/
theorem after_kindText_endsAs {I : Texts → Prop} {use : TypeId → Rendering String}
    {kind : TypeKind} (huse : ∀ c s, I s → After (use c) s fun _ t => I t) {s : Texts} (hs : I s) :
    After (kindText o use kind) s fun text t => I t ∧ EndsAs kind text := by
  have hparts : ∀ {α : Type} (f : α → Rendering String), (∀ a s, I s → After (f a) s fun _ t => I t) →
      ∀ (as : List α) s, I s → After (as.mapM f) s fun _ t => I t := fun f hf as s hs =>
    (after_mapM_forall₂ (Q := fun _ _ => True) (fun a _ s hs =>
      (hf a s hs).mono fun _ _ ht => ⟨ht, trivial⟩) hs).mono fun _ _ ht => ht.1
  cases kind with
  | any | unknown | literal _ | enumeration _ | reference _ | custom _ =>
    exact after_pure.2 ⟨hs, fun hbasic => nomatch hbasic⟩
  | null | boolean | number | string | object =>
    exact after_pure.2 ⟨hs, endsAs_of_getLast? rfl (by decide) rfl⟩
  | array element =>
    exact after_map.2 ((huse element s hs).mono fun text t ht =>
      ⟨ht, endsAs_of_getLast? (getLast?_of_append rfl rfl) (by decide) rfl⟩)
  | tuple elements min max spread =>
    refine after_bind.2 ((hparts use huse elements s hs).mono fun texts t ht => after_bind.2 ?_)
    have hspread : After (spread.mapM use) t fun _ u => I u := by
      cases spread with
      | none => exact after_pure.2 ht
      | some c => exact after_map.2 ((huse c t ht).mono fun _ _ hu => hu)
    exact hspread.mono fun rest u hu =>
      after_pure.2 ⟨hu, endsAs_of_getLast? (getLast?_boundedText ..) (by decide) rfl⟩
  | union members | intersection members =>
    exact after_map.2 ((hparts use huse members s hs).mono fun texts t ht =>
      ⟨ht, fun hbasic => nomatch hbasic⟩)
  | record members bases =>
    refine after_map.2 ((hparts (fun m : Member => signatureText o m <$> use m.type)
      (fun m s hs => after_map.2 (huse m.type s hs)) _ s hs).mono fun texts t ht => ⟨ht, fun _ => ?_⟩)
    exact ⟨fun _ => rfl, fun _ => getLast?_recordText texts⟩

/-- What is remembered of a type ends as its kind does, unless the type is being written. -/
def Sealed (g : TypeGraph) (active : List TypeId) (texts : Texts) : Prop :=
  ∀ id text, texts.lookup id = some text → id ∉ active → EndsAs (g.kind id) text

theorem Sealed.cons {active : List TypeId} {s : Texts} (hs : g.Sealed active s) (id : TypeId) :
    g.Sealed (id :: active) s :=
  fun other text hother hidle => hs other text hother fun hmem =>
    hidle (List.mem_cons_of_mem _ hmem)

/-- A type without a name is remembered when it has been written. -/
theorem after_useText_endsAs {raw : TypeId → Rendering String} {active : List TypeId}
    (hraw : ∀ s, g.Sealed active s → After (raw id) s fun text t =>
      g.Sealed (id :: active) t ∧ (id ∉ active → EndsAs (g.kind id) text))
    {s : Texts} (hs : g.Sealed active s) :
    After (useText g raw id) s fun text t => g.Sealed active t ∧
      (g.name? id = none → id ∉ active → EndsAs (g.kind id) text) := by
  unfold useText
  cases hname : g.name? id with
  | some name => exact after_pure.2 ⟨hs, fun hnone => nomatch hnone⟩
  | none =>
    refine after_bind.2 (after_get.2 ?_)
    cases hlookup : s.lookup id with
    | some text => exact after_pure.2 ⟨hs, fun _ => hs id text hlookup⟩
    | none =>
      refine after_bind.2 ((hraw s hs).mono fun text t ⟨ht, htext⟩ => ?_)
      refine after_bind.2 (after_modify.2 (after_pure.2 ⟨fun other found hfound hidle => ?_,
        fun _ => htext⟩))
      rw [List.lookup_cons] at hfound
      split at hfound
      · next heq =>
        rw [beq_iff_eq] at heq
        subst heq
        cases hfound
        exact htext hidle
      · next hne =>
        refine ht other found hfound fun hmem => ?_
        rcases List.mem_cons.1 hmem with rfl | hmem
        · simp at hne
        · exact hidle hmem

/-- **A type is written with the end of its kind**, by induction on the types that are not being
written. -/
theorem after_rawText_endsAs (g : TypeGraph) (o : Options) {active : List TypeId} (id : TypeId)
    {s : Texts} (hs : g.Sealed active s) :
    After (rawText g o active id) s fun text t =>
      g.Sealed (id :: active) t ∧ (id ∉ active → EndsAs (g.kind id) text) := by
  induction hn : (g.idle active).length using Nat.strong_induction_on generalizing active id s with
  | _ n ih =>
    subst hn
    rw [rawText]
    split
    · next h =>
      refine (after_kindText_endsAs (fun c s hs => ?_) (hs.cons id)).mono
        fun _ _ hrun => ⟨hrun.1, fun _ => hrun.2⟩
      exact (after_useText_endsAs (fun s hs => ih _ (length_idle_cons_lt h.1 h.2) c hs rfl) hs).mono
        fun _ _ ht => ht.1
    · next h =>
      -- a type out of range has no kind that a name stands for
      refine after_pure.2 ⟨hs.cons id, fun hidle hbasic => absurd ⟨lt_size_of_kind_ne ?_, hidle⟩ h⟩
      intro hany
      rw [hany] at hbasic
      cases hbasic

theorem after_render_endsAs (g : TypeGraph) (o : Options) (id : TypeId) {s : Texts}
    (hs : g.Sealed [] s) :
    After (g.render o id) s fun text t =>
      g.Sealed [] t ∧ (g.name? id = none → EndsAs (g.kind id) text) :=
  (after_useText_endsAs (fun _ hs => after_rawText_endsAs g o id hs) hs).mono
    fun _ _ ⟨ht, htext⟩ => ⟨ht, fun hname => htext hname List.not_mem_nil⟩

/-! ### What the sieve keeps -/

theorem dedupeMembers_eq_of_unnamed {members : List TypeId}
    (hmembers : ∀ m ∈ members, g.name? m = none) :
    dedupeMembers g o members = ((distinctMembers g o [] [] members).run {}).1 := by
  have hnone : (members.filter fun m => (g.name? m).isSome) = [] := by
    refine List.filter_eq_nil_iff.2 fun m hm => ?_
    rw [hmembers m hm]
    exact Bool.false_ne_true
  rw [dedupeMembers, namedStructures, hnone]
  rfl

/-- **The first member is kept**, where no member has a name. -/
theorem mem_dedupeMembers_cons {first : TypeId} {rest : List TypeId}
    (hmembers : ∀ m ∈ first :: rest, g.name? m = none) :
    first ∈ dedupeMembers g o (first :: rest) := by
  rw [dedupeMembers_eq_of_unnamed hmembers]
  change After (distinctMembers g o [] [] (first :: rest)) {} fun kept _ => first ∈ kept
  rw [distinctMembers, after_bind]
  refine After.mono (Q := fun _ _ => True) trivial fun text t _ => ?_
  rw [if_neg (by simp), after_bind]
  refine After.mono (Q := fun _ _ => True) trivial fun later u _ => ?_
  rw [if_neg (by simp), after_pure]
  exact List.mem_cons_self

/-- The first member is kept too where it spells out no named member, and every cycle passes a type
with a name. -/
theorem CyclesNamed.mem_dedupeMembers_cons (hg : g.CyclesNamed) {first : TypeId}
    {rest : List TypeId} (hspelled : ∀ k ∈ first :: rest, ¬ g.SpellsOut o first k) :
    first ∈ dedupeMembers g o (first :: rest) := by
  have hrun : After (namedStructures g o (first :: rest) >>= fun named =>
      distinctMembers g o named [] (first :: rest)) {} fun kept _ => first ∈ kept := by
    refine after_bind.2 ((hg.after_namedStructures (recalls_nil g o)).mono ?_)
    rintro named t ⟨ht, rfl⟩
    rw [distinctMembers, after_bind]
    refine (hg.after_render o first ht).mono ?_
    rintro text u ⟨-, rfl⟩
    rw [if_neg (by simp), after_bind]
    refine After.mono (Q := fun _ _ => True) trivial fun later v _ => ?_
    rw [if_neg, after_pure]
    · exact List.mem_cons_self
    · intro hdrop
      rw [Bool.and_eq_true, Option.isNone_iff_eq_none, List.contains_iff_mem] at hdrop
      obtain ⟨k, hk, hspells⟩ := spellsOut_iff.1 hdrop
      exact hspelled k hk hspells
  exact hrun

/-- Of basic kinds without names a class is kept. -/
theorem after_distinctMembers_isRecord {members : List TypeId}
    (hmembers : ∀ m ∈ members, g.name? m = none ∧ (g.kind m).isBasic = true)
    (hsome : ∃ m ∈ members, (g.kind m).isRecord = true) :
    ∀ (seen : List String), (∀ text ∈ seen, text.toList.getLast? ≠ some '\x7d') →
      ∀ s : Texts, g.Sealed [] s → After (distinctMembers g o [] seen members) s
        fun kept _ => ∃ m ∈ kept, (g.kind m).isRecord = true := by
  induction members with
  | nil =>
    obtain ⟨m, hm, -⟩ := hsome
    cases hm
  | cons member rest ih =>
    intro seen hseen s hs
    rw [distinctMembers, after_bind]
    refine (after_render_endsAs g o member hs).mono ?_
    rintro text t ⟨ht, htext⟩
    obtain ⟨hname, hbasic⟩ := hmembers member List.mem_cons_self
    have hlast := htext hname hbasic
    have hrest : (g.kind member).isRecord ≠ true → ∃ m ∈ rest, (g.kind m).isRecord = true := by
      intro hnot
      obtain ⟨m, hm, hrecord⟩ := hsome
      rcases List.mem_cons.1 hm with rfl | hm
      · exact absurd hrecord hnot
      · exact ⟨m, hm, hrecord⟩
    have ih := fun hsome => ih (fun m hm => hmembers m (List.mem_cons_of_mem _ hm)) hsome
    split
    · next hmem =>
      have hnot := fun hrecord => hseen text (List.contains_iff_mem.1 hmem) (hlast.2 hrecord)
      exact ih (hrest hnot) seen hseen t ht
    · rw [after_bind]
      by_cases hrecord : (g.kind member).isRecord = true
      · -- a class is kept at once
        refine After.mono (Q := fun _ _ => True) trivial fun later u _ => ?_
        rw [if_neg (by simp), after_pure]
        exact ⟨member, List.mem_cons_self, hrecord⟩
      · refine (ih (hrest hrecord) (text :: seen) ?_ t ht).mono ?_
        · intro other hother
          rcases List.mem_cons.1 hother with rfl | hother
          · exact fun h => hrecord (hlast.1 h)
          · exact hseen other hother
        · rintro later u ⟨m, hm, hkept⟩
          rw [if_neg (by simp), after_pure]
          exact ⟨m, List.mem_cons_of_mem _ hm, hkept⟩

/-- **A class is kept** among basic kinds without names. -/
theorem exists_isRecord_dedupeMembers {members : List TypeId}
    (hmembers : ∀ m ∈ members, g.name? m = none ∧ (g.kind m).isBasic = true)
    (hsome : ∃ m ∈ members, (g.kind m).isRecord = true) :
    ∃ m ∈ dedupeMembers g o members, (g.kind m).isRecord = true := by
  rw [dedupeMembers_eq_of_unnamed fun m hm => (hmembers m hm).1]
  exact after_distinctMembers_isRecord hmembers hsome [] (fun _ h => absurd h List.not_mem_nil) {}
    fun _ _ h => nomatch h

/-! ### Turns -/

theorem TypeKind.operands?_of_isBasic {kind : TypeKind} (h : kind.isBasic = true) :
    kind.operands? = none := by
  cases kind <;> first | rfl | cases h

/-- A kind without operands is not changed. -/
theorem kind_foldl_simplifyAt_of_operands (o : Options) (ids : List TypeId)
    (hid : (g.kind id).operands? = none) : (ids.foldl (simplifyAt o) g).kind id = g.kind id := by
  refine foldl_simplifyAt_induction (P := fun h => h.kind id = g.kind id) rfl
    (fun h other hh => ?_) ids
  rcases kind_simplifyAt o h other id with hsame | ⟨hoperands, -⟩
  · exact hsame.trans hh
  · rw [hh, hid] at hoperands
    cases hoperands

/-- **Simplification brings no `any`** where there is none among the operands of operands. -/
theorem kind_foldl_simplifyAt_ne_any (o : Options) (ids : List TypeId)
    (hknown : ∀ m, Relation.ReflTransGen g.HasOperand id m → g.kind m ≠ .any) :
    (ids.foldl (simplifyAt o) g).kind id ≠ .any := by
  refine (foldl_simplifyAt_induction (P := fun h => IsStage g h ∧
    ∀ m, Relation.ReflTransGen g.HasOperand id m → h.kind m ≠ .any) ⟨.refl g, hknown⟩ ?_ ids).2
      id .refl
  rintro h other ⟨hstage, hknown⟩
  refine ⟨hstage.simplifyAt o other, fun m hm hany => ?_⟩
  unfold simplifyAt at hany
  split at hany
  · next kind hsimpler =>
    rw [kind_setKind] at hany
    split at hany
    · next hother =>
      obtain ⟨rfl, -⟩ := hother
      subst hany
      obtain ⟨isUnion, members, -, hbecomes⟩ := exists_operands_of_simplerKind? hsimpler
      cases hbecomes with
      | any hflat hkind =>
        exact hknown _ (hm.trans (hstage.takes hflat).hasOperand.to_reflTransGen) hkind
      | kept _ _ _ hkept => cases hkept
    · exact hknown m hm hany
  · exact hknown m hm hany

/-- **A union of basic kinds without names** stays one, and keeps a class if it has any. -/
theorem exists_kind_simplify_of_union (o : Options) (hid : g.Reached id) {members : List TypeId}
    (hkind : g.kind id = .union members)
    (hmembers : ∀ m ∈ members, g.name? m = none ∧ (g.kind m).isBasic = true)
    (hsome : ∃ m ∈ members, (g.kind m).isRecord = true) :
    ∃ kept, (g.simplify o).kind id = .union kept ∧
      ∃ m ∈ kept, m ∈ members ∧ (g.kind m).isRecord = true := by
  obtain ⟨ids, hself, -, hresult⟩ := exists_foldl_simplifyAt o hid
  generalize hh : ids.foldl (simplifyAt o) g = h at hself hresult
  have hkinds : ∀ m ∈ members, h.name? m = none ∧ h.kind m = g.kind m := fun m hm => by
    subst hh
    exact ⟨(name?_foldl_simplifyAt o ids g m).trans (hmembers m hm).1,
      kind_foldl_simplifyAt_of_operands o ids (TypeKind.operands?_of_isBasic (hmembers m hm).2)⟩
  have hflat : h.IsFlat true members := by
    refine ⟨fun m hm _ inner hinner => ?_, fun m hm => ?_, nofun⟩
    · rw [(hkinds m hm).2, TypeKind.operands?_of_isBasic (hmembers m hm).2] at hinner
      cases hinner
    · have hbasic := (hmembers m hm).2
      rw [← (hkinds m hm).2] at hbasic
      constructor <;> intro heq <;> rw [heq] at hbasic <;> cases hbasic
  rw [hkind] at hself
  obtain ⟨hfalse, -⟩ | ⟨-, kind, hsimpler, hoperands⟩ :=
    hflat.operands_simplerKind? (o := o) (by rw [hself]; rfl)
  · cases hfalse
  · rw [hsimpler, Option.getD_some] at hresult
    obtain ⟨m, hm, hrecord⟩ := exists_isRecord_dedupeMembers (g := h) (o := o)
      (fun m hm => by rw [(hkinds m hm).2]; exact ⟨(hkinds m hm).1, (hmembers m hm).2⟩)
      (hsome.imp fun m ⟨hm, hrecord⟩ => ⟨hm, by rwa [(hkinds m hm).2]⟩)
    have hmem := mem_of_mem_dedupeMembers hm
    refine ⟨_, hresult.trans (TypeKind.eq_of_operands hoperands rfl), m, hm, hmem, ?_⟩
    rwa [← (hkinds m hmem).2]

/-- A step from an intersection to one of its members. -/
def Joins (g : TypeGraph) (a b : TypeId) : Prop :=
  ∃ members, (g.kind a).operands? = some (false, members) ∧ b ∈ members

/-- What an intersection takes in, it was joined with before over other intersections. -/
theorem transGen_joins_of_foldl (o : Options) (ids : List TypeId) {a b : TypeId}
    (hab : (ids.foldl (simplifyAt o) g).Joins a b) : Relation.TransGen g.Joins a b := by
  refine foldl_simplifyAt_induction (P := fun h => ∀ a b, h.Joins a b →
    Relation.TransGen g.Joins a b) (fun _ _ => .single) (fun h id hh a b hab => ?_) ids a b hab
  obtain ⟨kept, hkept, hb⟩ := hab
  unfold simplifyAt at hkept
  split at hkept
  · next kind hsimpler =>
    rw [kind_setKind] at hkept
    split at hkept
    · next hid =>
      obtain ⟨rfl, -⟩ := hid
      obtain ⟨members, hmembers, rfl, -⟩ := operands_of_simplerKind? hsimpler hkept
      rcases mem_flatMembers hmembers (sievedMembers_subset (mem_of_mem_dedupeMembers hb)) with
        hb | ⟨m, hm, -, -, hnested, hb⟩
      · exact hh _ b ⟨members, hmembers, hb⟩
      · exact (hh _ m ⟨members, hmembers, hm⟩).trans (hh m b ⟨_, hnested, hb⟩)
    · exact hh a b ⟨kept, hkept, hb⟩
  · exact hh a b ⟨kept, hkept, hb⟩

/-- The first member of an intersection comes first before the sieve, if it cannot vanish. -/
theorem exists_sievedMembers_cons {first : TypeId} {rest : List TypeId}
    (hkind : g.kind id = .intersection (first :: rest))
    (hfirst : (g.kind first).isRecord = true ∨ ∃ members, g.kind first = .union members) :
    ∃ others, g.sievedMembers id = first :: others := by
  have hoperands : (g.kind id).operands? = some (false, first :: rest) := by rw [hkind]; rfl
  have hflat : ∃ more, g.flatMembers id = first :: more := by
    rw [flatMembers_eq hoperands, List.flatMap_cons, flattenMember_of_flat (m := first)]
    · exact ⟨_, rfl⟩
    · rintro - inner hinner
      rcases hfirst with hrecord | ⟨members, hunion⟩
      · obtain ⟨_, _, heq⟩ := TypeKind.eq_record hrecord
        rw [heq] at hinner
        cases hinner
      · rw [hunion] at hinner
        cases hinner
  obtain ⟨more, hmore⟩ := hflat
  rw [sievedMembers, hoperands]
  change ∃ others, narrowMembers g (g.flatMembers id) = first :: others
  rw [hmore, narrowMembers, List.filter_cons_of_pos]
  · exact ⟨_, rfl⟩
  · rcases hfirst with hrecord | ⟨members, hunion⟩
    · obtain ⟨_, _, heq⟩ := TypeKind.eq_record hrecord
      simp [heq, TypeKind.isUnknown, TypeKind.isObject]
    · simp [hunion, TypeKind.isUnknown, TypeKind.isObject]

/-- At the turn of the root all other types have their final kinds. -/
theorem IsTurn.kind_of_ne_root (hturn : IsTurn g o g.root h) (hroot : g.root < g.size)
    (hne : id ≠ g.root) : h.kind id = (g.simplify o).kind id := by
  refine hturn.kind_finished id (Or.inl ?_)
  obtain ⟨others, hcons⟩ := exists_reachable_eq_cons hroot
  rw [hcons, List.idxOf_cons_self, List.idxOf_cons_ne _ hne.symm]
  exact Nat.succ_pos _

/-- At the turn of a root with a name all other types are written as they are in the end. -/
theorem IsTurn.ownText_of_ne_root (hturn : IsTurn g o g.root h) (hroot : g.root < g.size)
    (hnamed : (g.name? g.root).isSome) (hne : id ≠ g.root) :
    h.ownText o id = (g.simplify o).ownText o id := by
  have hraw := hturn.stage.renderRaw_eq id (.simplify g o) (fun b hb => ?_) o
  · rw [ownText, ownText, hraw]
  · refine hturn.kind_of_ne_root hroot ?_
    cases hb with
    | refl => exact hne
    | tail _ hb =>
      rintro rfl
      rw [hb.2] at hnamed
      cases hnamed

/-- **The first member of the root is left alone** by what the root is joined with: there are no
names in it, or else every cycle passes a name and no name stands for what is written as the first
member. -/
def LeavesAlone (g : TypeGraph) (o : Options) (first : TypeId) : Prop :=
  (∀ m, Relation.TransGen g.Joins g.root m → g.name? m = none) ∨
    (g.CyclesNamed ∧ ∀ m, Relation.TransGen g.Joins g.root m →
      m ≠ g.root ∧ ¬ (g.simplify o).SpellsOut o first m)

/-- **The root keeps its first member**, where it is an intersection that leaves this member alone
and the member cannot vanish. -/
theorem exists_kind_simplify_root (hroot : g.root < g.size) (hnamed : (g.name? g.root).isSome)
    {first : TypeId} {rest : List TypeId} (hkind : g.kind g.root = .intersection (first :: rest))
    (hname : g.name? first = none)
    (hkept : ((g.simplify o).kind first).isRecord = true ∨
      ∃ members, (g.simplify o).kind first = .union members)
    (halone : g.LeavesAlone o first) (hany : (g.simplify o).kind g.root ≠ .any) :
    ∃ kept, (g.simplify o).kind g.root = .intersection kept ∧ first ∈ kept := by
  have hne : first ≠ g.root := by
    rintro rfl
    rw [hname] at hnamed
    cases hnamed
  obtain ⟨ids, hself, hfinished, hresult⟩ := exists_foldl_simplifyAt o (.root hroot)
  have hturn : IsTurn g o g.root (ids.foldl (simplifyAt o) g) :=
    ⟨(IsStage.refl g).foldl o ids, hself, hfinished, hresult⟩
  have hjoins : ∀ m ∈ (ids.foldl (simplifyAt o) g).flatMembers g.root,
      Relation.TransGen g.Joins g.root m := by
    intro m hm
    have hoperands : ((ids.foldl (simplifyAt o) g).kind g.root).operands? =
        some (false, first :: rest) := by
      rw [hself, hkind]
      rfl
    rcases mem_flatMembers hoperands hm with hm | ⟨n, hn, -, -, hnested, hm⟩
    · exact transGen_joins_of_foldl o ids ⟨_, hoperands, hm⟩
    · exact (transGen_joins_of_foldl o ids ⟨_, hoperands, hn⟩).trans
        (transGen_joins_of_foldl o ids ⟨_, hnested, hm⟩)
  generalize ids.foldl (simplifyAt o) g = h at hself hresult hturn hjoins
  have hfirstKind := hturn.kind_of_ne_root hroot hne
  rw [hkind] at hself
  rw [← hfirstKind] at hkept
  obtain ⟨others, hsieved⟩ := exists_sievedMembers_cons hself hkept
  have hmembers : ∀ m ∈ first :: others, Relation.TransGen g.Joins g.root m := fun m hm =>
    hjoins m (sievedMembers_subset (hsieved ▸ hm))
  have hstays : first ∈ dedupeMembers h o (first :: others) := by
    rcases halone with hunnamed | ⟨hcycles, hspelled⟩
    · exact mem_dedupeMembers_cons fun m hm =>
        (hturn.stage.name m).trans (hunnamed m (hmembers m hm))
    · refine (hturn.stage.cyclesNamed hcycles).mem_dedupeMembers_cons fun k hk hspells => ?_
      -- what is written alike now is written alike in the end
      obtain ⟨hkroot, hnot⟩ := hspelled k (hmembers k hk)
      refine hnot ⟨(name?_simplify g o first).trans hname, ?_, ?_⟩
      · rw [name?_simplify, ← hturn.stage.name]
        exact hspells.named
      · rw [usedText_of_none ((name?_simplify g o first).trans hname),
          ← hturn.ownText_of_ne_root hroot hnamed hne,
          ← hturn.ownText_of_ne_root hroot hnamed hkroot, ← hspells.text_eq,
          usedText_of_none hspells.unnamed]
  obtain ⟨kind, hsimpler, hbecomes⟩ := exists_becomes (g := h) (by rw [hself]; rfl) o
  rw [hsimpler, Option.getD_some] at hresult
  cases hbecomes with
  | any => exact absurd hresult hany
  | vanished hempty =>
    rw [hsieved] at hempty
    cases hempty
  | kept _ _ _ hkind =>
    rw [hsieved] at hkind
    exact ⟨_, hresult.trans (TypeKind.eq_of_operands hkind rfl), hstays⟩

/-- A class with `P`, or a union of basic kinds without names in which there are classes, all with
`P`. -/
def ShowsClass (g : TypeGraph) (P : TypeKind → Prop) (kind : TypeKind) : Prop :=
  P kind ∨ ∃ members, kind = .union members ∧
    (∀ m ∈ members, g.name? m = none ∧ (g.kind m).isBasic = true) ∧
    (∃ m ∈ members, (g.kind m).isRecord = true) ∧
    ∀ m ∈ members, (g.kind m).isRecord = true → P (g.kind m)

variable {P : TypeKind → Prop} (hP : ∀ kind, P kind → kind.isRecord = true)

include hP

/-- A class with `P` is written out in the type that shows one. -/
theorem ShowsClass.exists_writesOut (hshows : g.ShowsClass P (g.kind id)) (o : Options)
    (hid : g.Reached id) : ∃ c, (g.simplify o).WritesOut id c ∧ P ((g.simplify o).kind c) := by
  have hkeeps : ∀ {c}, (g.kind c).isRecord = true → (g.simplify o).kind c = g.kind c := by
    intro c hrecord
    obtain ⟨_, _, heq⟩ := TypeKind.eq_record hrecord
    exact kind_foldl_simplifyAt_of_operands o _ (by rw [heq]; rfl)
  rcases hshows with hclass | ⟨members, hkind, hmembers, hsome, hclasses⟩
  · exact ⟨id, .refl, by rwa [hkeeps (hP _ hclass)]⟩
  · obtain ⟨kept, hkept, m, hm, hmem, hrecord⟩ :=
      exists_kind_simplify_of_union o hid hkind hmembers hsome
    refine ⟨m, .single ⟨?_, ?_⟩, ?_⟩
    · rw [hkept]
      exact hm
    · rw [name?_simplify]
      exact (hmembers m hmem).1
    · rw [hkeeps hrecord]
      exact hclasses m hmem hrecord

/-- **The root shows a class**, as all of its type or as the first member of an intersection that
leaves this member alone. -/
def RootShowsClass (g : TypeGraph) (o : Options) (P : TypeKind → Prop) : Prop :=
  g.ShowsClass P (g.kind g.root) ∨ ∃ first rest, g.kind g.root = .intersection (first :: rest) ∧
    g.name? first = none ∧ g.ShowsClass P (g.kind first) ∧ g.LeavesAlone o first

/-- **A class that the root shows is kept.** -/
theorem RootShowsClass.exists_class_simplify (hshows : g.RootShowsClass o P)
    (hroot : g.root < g.size) (hnamed : (g.name? g.root).isSome)
    (hany : (g.simplify o).kind g.root ≠ .any) :
    ∃ c, (g.simplify o).WritesOut g.root c ∧ P ((g.simplify o).kind c) := by
  rcases hshows with hshows | ⟨first, rest, hkind, hname, hshows, halone⟩
  · exact hshows.exists_writesOut hP o (.root hroot)
  · -- the first member is a class or a union
    have hlt : first < g.size := by
      refine lt_size_of_kind_ne fun heq => ?_
      rw [heq] at hshows
      rcases hshows with hclass | ⟨members, hunion, -⟩
      · cases hP _ hclass
      · cases hunion
    have hreached : g.Reached first :=
      .part (.root hroot) (by rw [children, hkind]; exact List.mem_cons_self) hlt
    have hkept : ((g.simplify o).kind first).isRecord = true ∨
        ∃ members, (g.simplify o).kind first = .union members := by
      rcases hshows with hclass | ⟨members, hunion, hmembers, hsome, -⟩
      · obtain ⟨_, _, heq⟩ := TypeKind.eq_record (hP _ hclass)
        left
        rw [simplify, kind_foldl_simplifyAt_of_operands o _ (by rw [heq]; rfl)]
        exact hP _ hclass
      · obtain ⟨kept, hkept, -⟩ := exists_kind_simplify_of_union o hreached hunion hmembers hsome
        exact Or.inr ⟨kept, hkept⟩
    obtain ⟨kept, hkeptRoot, hmem⟩ :=
      exists_kind_simplify_root hroot hnamed hkind hname hkept halone hany
    obtain ⟨c, hc, hclass⟩ := hshows.exists_writesOut hP o hreached
    refine ⟨c, .head ⟨?_, ?_⟩ hc, hclass⟩
    · rw [hkeptRoot]
      exact hmem
    · rw [name?_simplify]
      exact hname

omit hP

/-! ### What is declared in the end -/

section Optimized

variable (hok : g.optimize o = .ok h) (hdedup : o.deduplicateClasses = false)

include hok hdedup

/-- Where classes are not merged, a type that is replaced becomes a reference to its name. -/
theorem kind_of_isReplaced_optimize (hid : IsReplaced ((g.simplify o).replacements o) id)
    (hlt : id < g.size) : ∃ name, g.name? id = some name ∧ h.kind id = .reference name := by
  obtain ⟨⟨rs, hrs⟩, rfl⟩ := (optimize_eq_ok_iff g h o).1 hok
  have hreplacements : (g.simplify o).replacements o = rs := by
    rw [replacements, classReplacements, hdedup, nameReplacements, hrs]
    exact List.append_nil rs
  rw [hreplacements] at hid ⊢
  obtain ⟨name, hname, hkind⟩ := kind_of_isReplaced_names hrs hid (by rwa [size_simplify])
  exact ⟨name, (name?_simplify g o id).symm.trans hname, hkind⟩

/-- **What is written out at the root stays.** -/
theorem kind_optimize_of_writesOut (hroot : g.root < g.size) {c : TypeId}
    (hc : (g.simplify o).WritesOut g.root c) (hlt : c < g.size) :
    h.Reached c ∧ h.kind c = (g.simplify o).kind c := by
  obtain ⟨-, hh⟩ := (optimize_eq_ok_iff g h o).1 hok
  have hsize : h.size = g.size := by rw [hh, size_foldl_replace, size_simplify]
  have hkept : ∀ {id}, ¬ IsReplaced ((g.simplify o).replacements o) id →
      h.kind id = (g.simplify o).kind id := fun hid => by
    rw [hh, kind_foldl_replace_of_not hid]
  have hrootKept : ¬ IsReplaced ((g.simplify o).replacements o) g.root := by
    have hnot := not_isReplaced_root_nameReplacements (g := g.simplify o) (o := o)
      (by rwa [root_simplify, size_simplify])
    rw [root_simplify] at hnot
    rwa [replacements, classReplacements, hdedup, if_neg Bool.false_ne_true, List.append_nil]
  induction hc with
  | refl =>
    refine ⟨?_, hkept hrootKept⟩
    have hsame : h.root = g.root := by rw [hh, root_foldl_replace, root_simplify]
    exact hsame ▸ .root (by rw [hsame, hsize]; exact hlt)
  | @tail b c _ hbc ih =>
    have hb : b < g.size := by
      rw [← size_simplify g o]
      refine lt_size_of_kind_ne fun hany => ?_
      have hshown := hbc.1
      rw [hany] at hshown
      cases hshown
    obtain ⟨hreached, hkind⟩ := ih hb
    refine ⟨.part hreached ?_ (hsize ▸ hlt), hkept fun hreplaced => ?_⟩
    · rw [children, hkind]
      exact mem_children_of_mem_shown hbc.1
    · obtain ⟨name, hname, -⟩ := kind_of_isReplaced_optimize hok hdedup hreplaced hlt
      rw [← name?_simplify g o, hbc.2] at hname
      cases hname

theorem kind_optimize_root (hroot : g.root < g.size) :
    h.kind h.root = (g.simplify o).kind g.root := by
  have hkept := (kind_optimize_of_writesOut hok hdedup hroot .refl hroot).2
  have hsame : h.root = g.root := by
    obtain ⟨-, hh⟩ := (optimize_eq_ok_iff g h o).1 hok
    rw [hh, root_foldl_replace, root_simplify]
  rw [hsame, hkept]

/-- The root does not become `any` where there is none among the operands of operands. -/
theorem kind_optimize_root_ne_any (hroot : g.root < g.size)
    (hknown : ∀ m, Relation.ReflTransGen g.HasOperand g.root m → g.kind m ≠ .any) :
    h.kind h.root ≠ .any := by
  rw [kind_optimize_root hok hdedup hroot]
  exact kind_foldl_simplifyAt_ne_any o _ hknown

/-- **A name is declared** that a type has to which a type that is reached refers, where no
reference is open. -/
theorem declares_of_reached (hopen : h.hasOpenReference = false) (hid : h.Reached id)
    {name : String} (hname : g.name? id = some name) : h.Declares name := by
  by_cases hreplaced : IsReplaced ((g.simplify o).replacements o) id
  · obtain ⟨target, htarget, hkind⟩ :=
      kind_of_isReplaced_optimize hok hdedup hreplaced (lt_size_of_name? hname)
    rw [Option.some.inj (hname.symm.trans htarget)]
    exact declares_of_hasOpenReference hopen hid hkind
  · obtain ⟨-, rfl⟩ := (optimize_eq_ok_iff g h o).1 hok
    refine ⟨id, hid, ?_⟩
    rw [name?_foldl_replace_of_not hreplaced, name?_simplify, hname]

include hP in
/-- **A class that the root shows is reached in the end.** -/
theorem RootShowsClass.exists_class_optimize (hshows : g.RootShowsClass o P)
    (hroot : g.root < g.size) (hnamed : (g.name? g.root).isSome) (hany : h.kind h.root ≠ .any) :
    ∃ c, h.Reached c ∧ P (h.kind c) := by
  rw [kind_optimize_root hok hdedup hroot] at hany
  obtain ⟨c, hc, hclass⟩ := hshows.exists_class_simplify hP hroot hnamed hany
  have hlt : c < g.size := by
    rw [← size_simplify g o]
    refine lt_size_of_kind_ne fun heq => ?_
    have hrecord := hP _ hclass
    rw [heq] at hrecord
    cases hrecord
  obtain ⟨hreached, hkind⟩ := kind_optimize_of_writesOut hok hdedup hroot hc hlt
  exact ⟨c, hreached, hkind ▸ hclass⟩

end Optimized

end TypeGraph
end SchemaTypings
