import SchemaTypings.Proofs.History
import SchemaTypings.Proofs.Precedence

/-! # Where operators are loose

A text with a loose operator is that of a bounded array with several alternatives, where the array is
the type itself or the only member of a union or an intersection, perhaps of several one inside the
other.  That is so for every answer of a renderer, on every graph, whatever was asked before; and a
renderer that is asked for such a type first does write the alternatives.
-/
namespace SchemaTypings
namespace TypeGraph

/-- **Graphs with texts that are names**: what stands for a type is an identifier, and no type has a
text of its own. -/
structure WellNamed (g : TypeGraph) : Prop where
  name : ∀ id name, g.name? id = some name → Identifier.isIdentifier name = true
  reference : ∀ id target, g.kind id = .reference target → Identifier.isIdentifier target = true
  custom : ∀ id text, g.kind id ≠ .custom text

/-- A type that is written as another: a union or an intersection of one member without a name. -/
def Wraps (g : TypeGraph) (a b : TypeId) : Prop :=
  (∃ isUnion, (g.kind a).operands? = some (isUnion, [b])) ∧ g.name? b = none

/-- The number of alternatives as which a kind is written. -/
def alternativeCount : TypeKind → Nat
  | .tuple elements min max spread => (tupleShapes 0 elements min max spread).length
  | _ => 1

/-- **The text of several alternatives**: that of a bounded array, or of a type that wraps one. -/
inductive Alternates (g : TypeGraph) (o : Options) : TypeId → String → Prop where
  | tuple {id : TypeId} {elements : List TypeId} {min : Nat} {max : Option Nat}
    {spread : Option TypeId} {texts : List String} {further : Option String}
    (hkind : g.kind id = .tuple elements min max spread)
    (hmany : 2 ≤ alternativeCount (g.kind id))
    (htexts : List.Forall₂ (fun _ t => Expression .type t) elements texts)
    (hfurther : Option.Rel (fun _ t => Expression .type t) spread further) :
    Alternates g o id (boundedText o.placeholder texts min max further)
  | wrap {id member : TypeId} {text : String} (hwraps : g.Wraps id member)
    (h : Alternates g o member text) : Alternates g o id text

/-- **The text of a type**: an expression, and one that is safe beside any operator unless it lists
several alternatives. -/
def IsWritten (g : TypeGraph) (o : Options) (id : TypeId) (text : String) : Prop :=
  Expression .type text ∧ (Guarded text ∨ Alternates g o id text)

variable {g : TypeGraph} {o : Options}

/-! ### Alternatives -/

/-- The number of alternatives does not depend on what they are made of. -/
theorem length_tupleShapes_congr {α β : Type} {a : α} {b : β} {as : List α} {bs : List β}
    {min : Nat} {max : Option Nat} {s : Option α} {t : Option β} (hlength : as.length = bs.length)
    (hspread : s.isSome = t.isSome) :
    (tupleShapes a as min max s).length = (tupleShapes b bs min max t).length := by
  cases s <;> cases t <;> cases max <;> simp_all [tupleShapes, tupleElements]

section Parts

variable {elements : List TypeId} {texts : List String} {min : Nat} {max : Option Nat}
  {spread : Option TypeId} {further : Option String} {R : TypeId → String → Prop}
  (htexts : List.Forall₂ R elements texts) (hfurther : Option.Rel R spread further)

include htexts hfurther

theorem length_shapes_eq :
    (tupleShapes o.placeholder texts min max further).length =
      alternativeCount (.tuple elements min max spread) := by
  have hspread : further.isSome = spread.isSome := by
    cases hfurther <;> rfl
  exact length_tupleShapes_congr htexts.length_eq.symm hspread

theorem forall_parts {Q : String → Prop} (h : ∀ c t, R c t → Q t) :
    (∀ t ∈ texts, Q t) ∧ ∀ t ∈ further, Q t := by
  constructor
  · intro t ht
    obtain ⟨c, -, hc⟩ := exists_left_of_forall₂ htexts t ht
    exact h c t hc
  · intro t ht
    cases hfurther with
    | some hc => exact Option.mem_some.1 ht ▸ h _ _ hc
    | none => cases ht

end Parts

/-- **The text of several alternatives has a loose operator.** -/
theorem Alternates.hasLooseOperator {id : TypeId} {text : String} (h : Alternates g o id text) :
    hasLooseOperator {} text.toList = true := by
  induction h with
  | tuple hkind hmany htexts hfurther =>
    obtain ⟨hts, hrest⟩ := forall_parts htexts hfurther fun _ _ h => h
    refine hasLooseOperator_boundedText hts hrest ?_
    rwa [length_shapes_eq htexts hfurther, ← hkind]
  | wrap _ _ ih => exact ih

/-- A text that lists several alternatives is written for a type that shows them. -/
theorem Alternates.exists_reflTransGen {id : TypeId} {text : String} (h : Alternates g o id text) :
    ∃ t, Relation.ReflTransGen g.Wraps id t ∧ 2 ≤ alternativeCount (g.kind t) := by
  induction h with
  | tuple hkind hmany htexts hfurther => exact ⟨_, .refl, hmany⟩
  | wrap hwraps _ ih =>
    obtain ⟨t, ht, hmany⟩ := ih
    exact ⟨t, .head hwraps ht, hmany⟩

/-- **The scan finds a loose operator exactly in the texts of several alternatives.** -/
theorem IsWritten.hasLooseOperator_iff {id : TypeId} {text : String} (h : IsWritten g o id text) :
    TypeGraph.hasLooseOperator {} text.toList = true ↔ Alternates g o id text := by
  constructor
  · intro hloose
    rcases h.2 with hguard | halternates
    · rw [h.1.balanced.guarded_iff.1 hguard] at hloose
      cases hloose
    · exact halternates
  · exact Alternates.hasLooseOperator

/-! ### Every text is written so -/

/-- What a type is used as: its name, or a text that is safe unless it lists several alternatives. -/
theorem WellNamed.usedAs (hg : g.WellNamed) {id : TypeId} {text : String}
    (h : g.UsedAs (IsWritten g o) id text) :
    Expression .type text ∧ (Guarded text ∨ g.name? id = none ∧ Alternates g o id text) := by
  unfold UsedAs at h
  split at h
  · next name hname =>
    have hidentifier := hg.name id name hname
    rw [h]
    exact ⟨expression_of_isIdentifier hidentifier, Or.inl (guarded_of_isIdentifier hidentifier)⟩
  · next hname => exact ⟨h.1, h.2.imp_right fun halternates => ⟨hname, halternates⟩⟩

theorem isWritten_word {id : TypeId} {text : String} (h : Identifier.isIdentifier text = true) :
    IsWritten g o id text := ⟨expression_of_isIdentifier h, Or.inl (guarded_of_isIdentifier h)⟩

/-- The only member of a union or an intersection is written as that. -/
theorem WellNamed.guarded_or_alternates (hg : g.WellNamed) {id : TypeId} {isUnion : Bool}
    {members : List TypeId} (hoperands : (g.kind id).operands? = some (isUnion, members))
    {ts : List String} (hts : List.Forall₂ (g.UsedAs (IsWritten g o)) members ts) :
    (∀ t, ts = [t] → Guarded t) ∨ ∃ t, ts = [t] ∧ Alternates g o id t := by
  by_cases hsingle : ∀ t, ts = [t] → Guarded t
  · exact Or.inl hsingle
  · push Not at hsingle
    obtain ⟨t, rfl, hloose⟩ := hsingle
    cases hts with
    | @cons member _ _ _ hmember hnil =>
      cases hnil
      obtain ⟨hname, halternates⟩ := (hg.usedAs hmember).2.resolve_left hloose
      exact Or.inr ⟨t, rfl, .wrap ⟨⟨isUnion, hoperands⟩, hname⟩ halternates⟩

/-- **What is made from texts that are written so is written so.** -/
theorem WellNamed.kept (hg : g.WellNamed) (o : Options) : Kept g o (IsWritten g o) where
  placeholder _ := by
    unfold Options.placeholder
    split <;> exact isWritten_word (by decide)
  kind id _ text htext := by
    have hmembers : ∀ {ids ts}, List.Forall₂ (g.UsedAs (IsWritten g o)) ids ts →
        ∀ t ∈ ts, Expression .type t := by
      intro ids ts hts t ht
      obtain ⟨c, -, hc⟩ := exists_left_of_forall₂ hts t ht
      exact (hg.usedAs hc).1
    cases hkind : g.kind id with
    | any | unknown | null | boolean | number | string | object =>
      rw [hkind] at htext
      rw [htext]
      exact isWritten_word (by rw [textFrom, kindText]; decide)
    | literal value =>
      rw [hkind] at htext
      rw [htext]
      exact ⟨.value value, Or.inl value.guarded_text⟩
    | array element =>
      rw [hkind] at htext
      obtain ⟨t, ht, rfl⟩ := htext
      have ht := (hg.usedAs ht).1
      exact ⟨expression_arrayText ht, Or.inl (guarded_arrayText ht)⟩
    | tuple elements min max spread =>
      rw [hkind] at htext
      obtain ⟨ts, further, hts, hfurther, rfl⟩ := htext
      obtain ⟨hexpressions, hrest⟩ := forall_parts hts hfurther fun _ _ h => (hg.usedAs h).1
      refine ⟨expression_boundedText hexpressions hrest, ?_⟩
      have hlength : (tupleShapes o.placeholder ts min max further).length =
          alternativeCount (.tuple elements min max spread) := length_shapes_eq hts hfurther
      rcases Nat.lt_or_ge (alternativeCount (.tuple elements min max spread)) 2 with hone | hmany
      · exact Or.inl (guarded_boundedText hexpressions hrest (hlength ▸ hone))
      · have hfurther' : Option.Rel (fun _ t => Expression .type t) spread further := by
          cases hfurther with
          | some h => exact .some (hg.usedAs h).1
          | none => exact .none
        exact Or.inr (.tuple hkind (hkind ▸ hmany) (hts.imp fun _ _ h => (hg.usedAs h).1) hfurther')
    | union members =>
      rw [hkind] at htext
      obtain ⟨ts, hts, rfl⟩ := htext
      refine ⟨expression_unionText (hmembers hts), ?_⟩
      have hoperands : (g.kind id).operands? = some (true, members) := by rw [hkind]; rfl
      rcases hg.guarded_or_alternates hoperands hts with hsingle | ⟨t, rfl, halternates⟩
      · exact Or.inl (guarded_unionText (hmembers hts) hsingle)
      · exact Or.inr halternates
    | intersection members =>
      rw [hkind] at htext
      obtain ⟨ts, hts, rfl⟩ := htext
      refine ⟨expression_intersectionText (hmembers hts), ?_⟩
      have hoperands : (g.kind id).operands? = some (false, members) := by rw [hkind]; rfl
      rcases hg.guarded_or_alternates hoperands hts with hsingle | ⟨t, rfl, halternates⟩
      · exact Or.inl (guarded_intersectionText (hmembers hts) hsingle)
      · exact Or.inr halternates
    | enumeration entries =>
      rw [hkind] at htext
      have hvalues : ∀ t ∈ entries.map fun entry => entry.value.text,
          Expression .type t ∧ Guarded t := by
        intro t ht
        obtain ⟨entry, -, rfl⟩ := List.mem_map.1 ht
        exact ⟨.value entry.value, entry.value.guarded_text⟩
      rw [htext]
      refine ⟨expression_unionText fun t ht => (hvalues t ht).1, Or.inl ?_⟩
      exact guarded_unionText (fun t ht => (hvalues t ht).1) fun t ht =>
        (hvalues t (ht ▸ List.mem_singleton_self t)).2
    | record members bases =>
      rw [hkind] at htext
      obtain ⟨signatures, hsignatures, rfl⟩ := htext
      have hall : ∀ t ∈ signatures, Expression .member t := by
        intro t ht
        obtain ⟨m, -, type, htype, rfl⟩ := exists_left_of_forall₂ hsignatures t ht
        exact expression_signatureText o m (hg.usedAs htype).1
      exact ⟨.record hall, Or.inl (guarded_recordText fun t ht => (hall t ht).balanced)⟩
    | reference target =>
      rw [hkind] at htext
      rw [htext]
      exact isWritten_word (hg.reference id target hkind)
    | custom text => exact absurd hkind (hg.custom id text)

/-! ### Asking first -/

/-- Only bounded arrays are written as several alternatives. -/
theorem exists_tuple_of_many {kind : TypeKind} (hmany : 2 ≤ alternativeCount kind) :
    ∃ elements min max spread, kind = .tuple elements min max spread := by
  unfold alternativeCount at hmany
  split at hmany
  · exact ⟨_, _, _, _, rfl⟩
  · omega

/-- A type wraps at most one other. -/
theorem Wraps.unique {a b c : TypeId} (hb : g.Wraps a b) (hc : g.Wraps a c) : b = c := by
  obtain ⟨⟨_, hb⟩, -⟩ := hb
  obtain ⟨⟨_, hc⟩, -⟩ := hc
  exact (List.singleton_inj.1 (Prod.mk.inj (Option.some.inj (hb.symm.trans hc))).2)

/-- What follows a type that wraps itself wraps itself. -/
theorem transGen_of_reflTransGen {a b : TypeId} (hcycle : Relation.TransGen g.Wraps a a)
    (h : Relation.ReflTransGen g.Wraps a b) : Relation.TransGen g.Wraps b b := by
  induction h with
  | refl => exact hcycle
  | tail _ hstep ih =>
    obtain ⟨next, hnext, hback⟩ := Relation.TransGen.head'_iff.1 ih
    obtain rfl := hnext.unique hstep
    exact Relation.TransGen.tail' hback hstep

/-- **A type that shows alternatives does not wrap itself.** -/
theorem not_transGen_of_many {id t : TypeId} (h : Relation.ReflTransGen g.Wraps id t)
    (hmany : 2 ≤ alternativeCount (g.kind t)) : ¬ Relation.TransGen g.Wraps id id := by
  intro hcycle
  obtain ⟨next, ⟨⟨_, hnext⟩, -⟩, -⟩ :=
    Relation.TransGen.head'_iff.1 (transGen_of_reflTransGen hcycle h)
  obtain ⟨elements, min, max, spread, hkind⟩ := exists_tuple_of_many hmany
  rw [hkind] at hnext
  cases hnext

/-- A bounded array with several alternatives is written with a loose operator. -/
theorem WellNamed.after_rawText_many (hg : g.WellNamed) {id : TypeId}
    (hmany : 2 ≤ alternativeCount (g.kind id)) {active : List TypeId} (hactive : id ∉ active) :
    After (g.rawText o active id) [] fun text _ => hasLooseOperator {} text.toList = true := by
  obtain ⟨elements, min, max, spread, hkind⟩ := exists_tuple_of_many hmany
  have hsize : id < g.size := lt_size_of_kind_ne fun hany => by
    rw [hkind] at hany
    cases hany
  have hparts : ∀ c ∈ (g.kind id).shown, ∀ s, Remembers (IsWritten g o) s →
      After (g.useText (fun child => g.rawText o (id :: active) child) c) s
        fun text t => Remembers (IsWritten g o) t ∧ g.UsedAs (IsWritten g o) c text :=
    fun c _ s hs => after_useText_of (fun _ s hs => (hg.kept o).after_rawText _ c hs) hs
  rw [rawText, dif_pos ⟨hsize, hactive⟩]
  refine (after_kindText_of hparts (remembers_nil _)).mono fun text _ hwritten => ?_
  have htext := hwritten.2
  rw [hkind] at htext hmany
  obtain ⟨ts, further, hts, hfurther, rfl⟩ := htext
  obtain ⟨hexpressions, hrest⟩ := forall_parts hts hfurther fun _ _ h => (hg.usedAs h).1
  exact hasLooseOperator_boundedText hexpressions hrest (length_shapes_eq hts hfurther ▸ hmany)

/-- A type that wraps another is written as that, where nothing is remembered. -/
theorem after_rawText_wraps {a b : TypeId} (hwraps : g.Wraps a b) {active : List TypeId}
    (hactive : a ∉ active) {Q : String → Prop}
    (h : After (g.rawText o (a :: active) b) [] fun text _ => Q text) :
    After (g.rawText o active a) [] fun text _ => Q text := by
  obtain ⟨⟨isUnion, hoperands⟩, hname⟩ := hwraps
  have huse : After (g.useText (fun child => g.rawText o (a :: active) child) b) []
      fun text _ => Q text := by
    unfold useText
    rw [hname]
    exact after_bind.2 (after_get.2 (after_bind.2 h))
  have hsize : a < g.size := lt_size_of_kind_ne fun hany => by
    rw [hany] at hoperands
    cases hoperands
  rw [rawText, dif_pos ⟨hsize, hactive⟩]
  cases hkind : g.kind a with
  | union members | intersection members =>
    rw [hkind] at hoperands
    obtain rfl : members = [b] := (Prod.mk.inj (Option.some.inj hoperands)).2
    exact after_map.2 (after_bind.2 huse)
  | _ =>
    rw [hkind] at hoperands
    cases hoperands

/-- **A renderer that is asked first writes the alternatives** of a bounded array for every type that
wraps it: nothing on the way is remembered, and nothing is met inside itself. -/
theorem WellNamed.after_rawText_alternatives (hg : g.WellNamed) {id t : TypeId}
    (h : Relation.ReflTransGen g.Wraps id t) (hmany : 2 ≤ alternativeCount (g.kind t))
    {active : List TypeId} (hactive : ∀ a ∈ active, Relation.TransGen g.Wraps a id) :
    After (g.rawText o active id) [] fun text _ => hasLooseOperator {} text.toList = true := by
  induction h using Relation.ReflTransGen.head_induction_on generalizing active with
  | refl =>
    exact hg.after_rawText_many hmany fun hmem => not_transGen_of_many .refl hmany (hactive t hmem)
  | @head a b hwraps hrest ih =>
    have hnot : a ∉ active := fun hmem =>
      not_transGen_of_many (.head hwraps hrest) hmany (hactive a hmem)
    refine after_rawText_wraps hwraps hnot (ih fun c hc => ?_)
    rcases List.mem_cons.1 hc with rfl | hc
    · exact .single hwraps
    · exact (hactive c hc).tail hwraps

/-- **The structure of a type is written with a loose operator at first** exactly if the type is or
wraps a bounded array with several alternatives. -/
theorem WellNamed.hasLooseOperator_ownText (hg : g.WellNamed) (o : Options) (id : TypeId) :
    hasLooseOperator {} (g.ownText o id).toList = true ↔
      ∃ t, Relation.ReflTransGen g.Wraps id t ∧ 2 ≤ alternativeCount (g.kind t) := by
  constructor
  · intro hloose
    have hwritten := ((hg.kept o).after_renderRaw id (remembers_nil _)).2
    exact (hwritten.hasLooseOperator_iff.1 hloose).exists_reflTransGen
  · rintro ⟨t, ht, hmany⟩
    exact hg.after_rawText_alternatives ht hmany fun a ha => absurd ha List.not_mem_nil

/-! ### Sessions -/

/-- **What operators ask of an answer**: an expression, whose brackets stand in pairs and which is
safe beside any operator in the parentheses that it is given; the scan finds a loose operator in a
type exactly if the text lists several alternatives. -/
def Call.BindsSafely (g : TypeGraph) (o : Options) : Call → String → Prop
  | .used id, text | .own id, text =>
    Expression .type text ∧ Balanced text ∧ Guarded (parenthesize text) ∧
      (hasLooseOperator {} text.toList = true ↔ Alternates g o id text)
  | .signature _, text => Expression .member text ∧ Balanced text

theorem IsWritten.bindsSafely {id : TypeId} {text : String} (h : IsWritten g o id text) :
    Call.BindsSafely g o (.own id) text :=
  ⟨h.1, h.1.balanced, h.1.parenthesize.2, h.hasLooseOperator_iff⟩

theorem WellNamed.isWritten_of_usedAs (hg : g.WellNamed) {id : TypeId} {text : String}
    (h : g.UsedAs (IsWritten g o) id text) : IsWritten g o id text :=
  (hg.usedAs h).imp_right fun h => h.imp_right And.right

theorem WellNamed.after_answer (hg : g.WellNamed) (call : Call) {s : Texts}
    (hs : Remembers (IsWritten g o) s) :
    After (call.answer g o) s fun text t =>
      Remembers (IsWritten g o) t ∧ call.BindsSafely g o text := by
  cases call with
  | used id =>
    exact ((hg.kept o).after_render id hs).mono fun text t ⟨ht, htext⟩ =>
      ⟨ht, (hg.isWritten_of_usedAs htext).bindsSafely⟩
  | own id =>
    exact ((hg.kept o).after_renderRaw id hs).mono fun text t ⟨ht, htext⟩ => ⟨ht, htext.bindsSafely⟩
  | signature m =>
    refine after_map.2 (((hg.kept o).after_render m.type hs).mono fun text t ⟨ht, htext⟩ => ?_)
    have hmember := expression_signatureText o m (hg.usedAs htext).1
    exact ⟨ht, hmember, hmember.balanced⟩

/-- **Operators bind as they should.**  In a graph whose names and targets are identifiers every
answer of a session is an expression in which the operands of `[]`, `&`, spreads and `| undefined`
are safe beside any operator, and whose brackets outside strings stand in pairs.  The scan finds a
loose operator exactly in texts that list the alternatives of a bounded array, which the type is or
wraps; and a type that is asked for first is written so if and only if it is used without a name and
is or wraps such an array. -/
theorem WellNamed.session_bindsSafely (hg : g.WellNamed) (o : Options) (calls : List Call) :
    List.Forall₂ (Call.BindsSafely g o) calls ((g.session o calls).run {}).1 ∧
      ∀ id, hasLooseOperator {} (g.usedText o id).toList = true ↔
        g.name? id = none ∧
          ∃ t, Relation.ReflTransGen g.Wraps id t ∧ 2 ≤ alternativeCount (g.kind t) := by
  refine ⟨?_, fun id => ?_⟩
  · exact (after_mapM_forall₂ (fun call _ s hs => hg.after_answer call hs) (remembers_nil _)).2
  · cases hname : g.name? id with
    | some name =>
      have hguard := guarded_of_isIdentifier (hg.name id name hname)
      rw [usedText_of_name hname, hguard.balanced.guarded_iff.1 hguard]
      simp
    | none =>
      rw [usedText_of_none hname, hg.hasLooseOperator_ownText]
      simp

/-- A bounded array as the only member of a union, which is the element of an array, stands beside an
operator and at the end of a tuple, and is what an index signature allows. -/
def boundedUses : TypeGraph where
  nodes := #[
    { kind := .record [{ key := "(a|b", type := 1, isRequired := true }, { key := "all", type := 4 },
        { key := "rest", type := 1, isIndex := true, isRequired := true }] [], name := some "Root" },
    { kind := .union [2] },
    { kind := .tuple [3, 3] 1 none none },
    { kind := .literal (.string "[&") },
    { kind := .array 1 },
    { kind := .intersection [1, 6] },
    { kind := .reference "Other" },
    { kind := .tuple [6] 1 none (some 1) }]
  root := 0

theorem wellNamed_boundedUses : boundedUses.WellNamed := by
  have hnames : ∀ id < boundedUses.size,
      ∀ name ∈ boundedUses.name? id, Identifier.isIdentifier name = true := by decide +kernel
  have hkinds : ∀ id < boundedUses.size, (match boundedUses.kind id with
      | .reference target => Identifier.isIdentifier target
      | .custom _ => false
      | _ => true) = true := by decide +kernel
  refine ⟨fun id name h => hnames id (lt_size_of_name? h) name h, fun id target h => ?_,
    fun id text h => ?_⟩
  · have hid := hkinds id (lt_size_of_kind_ne (by rw [h]; nofun))
    rwa [h] at hid
  · have hid := hkinds id (lt_size_of_kind_ne (by rw [h]; nofun))
    rw [h] at hid
    cases hid

/-- The texts around such an array, and the array itself by its union. -/
theorem session_bindsSafely_boundedUses : boundedUses.WellNamed ∧
    ((boundedUses.session { strictIndexSignatures := true }
      [.used 4, .used 5, .used 7, .own 0, .used 1]).run {}).1 =
      ["([\"[&\"] | [\"[&\", \"[&\"])[]",
        "(([\"[&\"] | [\"[&\", \"[&\"]) & Other)",
        "[Other, ...([\"[&\"] | [\"[&\", \"[&\"])[]]",
        "\x7b \"(a|b\": [\"[&\"] | [\"[&\", \"[&\"]; all?: ([\"[&\"] | [\"[&\", \"[&\"])[]; " ++
          "[k: string]: ([\"[&\"] | [\"[&\", \"[&\"]) | undefined \x7d",
        "[\"[&\"] | [\"[&\", \"[&\"]"] ∧
    List.Forall₂ (Call.BindsSafely boundedUses { strictIndexSignatures := true })
      [.used 4, .used 5, .used 7, .own 0, .used 1]
      ((boundedUses.session { strictIndexSignatures := true }
        [.used 4, .used 5, .used 7, .own 0, .used 1]).run {}).1 ∧
    hasLooseOperator {} (boundedUses.usedText {} 1).toList = true := by
  refine ⟨wellNamed_boundedUses, by decide +kernel,
    (wellNamed_boundedUses.session_bindsSafely _ _).1, ?_⟩
  refine ((wellNamed_boundedUses.session_bindsSafely {} []).2 1).2 ⟨by decide +kernel, 2, ?_, ?_⟩
  · exact .single ⟨⟨true, rfl⟩, rfl⟩
  · decide +kernel

end TypeGraph
end SchemaTypings
