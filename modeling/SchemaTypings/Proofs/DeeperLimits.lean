import SchemaTypings.Proofs.Draining
import SchemaTypings.Proofs.LaterStages
import SchemaTypings.Proofs.SideBySide
import SchemaTypings.Proofs.Visits

/-! # Deeper limits

The limit on depth is looked at where references are rewritten, where their chains are followed, and
where the bundled document is linked; each of these only fails when the limit is reached.  So with a
higher limit each succeeds as it does with the lower one, and nothing after them asks for it.
-/
namespace SchemaTypings

/-! ### Rewriting -/

/-- Visits that succeed as others do. -/
theorem Subschema.runsAs_mapM {σ ε : Type} {visit visit' : String → Json → StateT σ (Except ε) Json}
    (hvisit : ∀ path value, RunsAs (visit path value) (visit' path value)) (path : String)
    (entries : Dict Json) :
    RunsAs (Subschema.mapM visit path entries) (Subschema.mapM visit' path entries) := by
  have hlist : ∀ (keyword : String) (items : List Json),
      RunsAs (items.zipIdx.mapM fun item =>
          visit (Pointer.build path [keyword, toString item.2]) item.1)
        (items.zipIdx.mapM fun item =>
          visit' (Pointer.build path [keyword, toString item.2]) item.1) :=
    fun keyword items => .mapM (fun item => hvisit _ _) _
  have hkeyword : ∀ keyword value,
      RunsAs (mapKeyword visit path keyword value) (mapKeyword visit' path keyword value) := by
    intro keyword value
    unfold mapKeyword
    dsimp only
    split
    · exact (RunsAs.mapM (fun entry => (hvisit _ _).bind_left _) _).bind_left _
    · exact hvisit _ _
    · exact (hlist _ _).bind_left _
    · exact (hlist _ _).bind_left _
    · exact hvisit _ _
    · exact .refl _
  exact RunsAs.mapM (fun entry => (hkeyword _ _).bind_left _) _

namespace Bundle

variable {limit limit' : Nat}

theorem runsAs_rewrite {levels levels' : Nat} (hle : levels ≤ levels') (scope : Uri)
    (path : String) (value : Json) :
    RunsAs (rewrite limit scope levels path value) (rewrite limit' scope levels' path value) := by
  induction levels generalizing levels' path value with
  | zero =>
    rw [rewrite]
    exact .throw _ _
  | succ levels ih =>
    obtain ⟨more, rfl⟩ : ∃ more, levels' = more + 1 := ⟨levels' - 1, by omega⟩
    cases value with
    | object entries =>
      rw [rewrite, rewrite]
      refine .bind_right _ fun written => .bind_left ?_ _
      exact Subschema.runsAs_mapM (fun path value => ih (by omega) path value) path written
    | _ =>
      rw [rewrite, rewrite]
      · exact .refl _
      all_goals
        intro entries h
        cases h

theorem runsAs_rewritePending (hle : limit ≤ limit') (rounds : Nat) (done : Dict Json) :
    RunsAs (rewritePending limit rounds done) (rewritePending limit' rounds done) := by
  induction rounds generalizing done with
  | zero => exact .refl _
  | succ rounds ih =>
    rw [rewritePending, rewritePending]
    refine .bind_right _ fun progress => ?_
    cases progress.resolver.next? with
    | mk next resolver =>
      cases next with
      | none => exact .refl _
      | some d =>
        refine .bind_right _ fun _ => ?_
        exact (runsAs_rewrite (by omega) d.1 _ d.2).bind fun document => ih _

theorem runsAs_rewriteAll (hle : limit ≤ limit') (schema : Json) :
    RunsAs (rewriteAll limit schema) (rewriteAll limit' schema) := by
  refine .bind_right _ fun progress => ?_
  refine (runsAs_rewrite (by omega) _ _ schema).bind fun written => ?_
  exact (runsAs_rewritePending hle _ []).bind_left _

/-! ### Collapsing -/

theorem succeedsAs_followChain (root : Json) (site : Site) {steps steps' : Nat}
    (hle : steps ≤ steps') (chain : List String) :
    SucceedsAs (followChain root site limit steps chain)
      (followChain root site limit' steps' chain) := by
  induction steps using Nat.strong_induction_on generalizing steps' chain with
  | _ steps ih =>
    cases chain with
    | nil =>
      unfold followChain
      exact .error _ _
    | cons current earlier =>
      unfold followChain
      cases Pointer.resolve? root current with
      | none => exact .error _ _
      | some node =>
        dsimp only
        cases bareRef? node with
        | none => exact .refl _
        | some next =>
          dsimp only
          by_cases hseen : (current :: earlier).contains next = true
          · rw [if_pos hseen]
            exact .error _ _
          · rw [if_neg hseen, if_neg hseen]
            cases steps with
            | zero => exact .error _ _
            | succ steps =>
              obtain ⟨more, rfl⟩ : ∃ more, steps' = more + 1 := ⟨steps' - 1, by omega⟩
              exact ih steps (Nat.lt_succ_self _) (by omega) _

theorem succeedsAs_collapseSite (hle : limit ≤ limit') (b : Bundle) (site : Site) :
    SucceedsAs (collapseSite limit b site) (collapseSite limit' b site) := by
  refine SucceedsAs.bind ?_ fun target => .refl _
  unfold concreteTarget
  split
  · exact .error _ _
  · exact succeedsAs_followChain b.schema site hle _

/-- **With a higher limit a schema is bundled as with the lower one**, where that succeeds. -/
theorem succeedsAs_ofSchema (hle : limit ≤ limit') (schema : Json) (o : Options)
    (source : DocumentSource) :
    SucceedsAs (ofSchema schema { o with maxDepth := limit } source)
      (ofSchema schema { o with maxDepth := limit' } source) := by
  refine SucceedsAs.bind (.refl _) fun base => ?_
  refine SucceedsAs.bind (runsAs_rewriteAll hle schema _) fun written => ?_
  refine SucceedsAs.bind (.refl _) fun root => ?_
  exact .foldlM (succeedsAs_collapseSite hle) _ _

/-- The source is asked for the same documents then. -/
theorem succeedsAs_fetches (hle : limit ≤ limit') (schema : Json) (o : Options)
    (source : DocumentSource) :
    SucceedsAs (fetches schema { o with maxDepth := limit } source)
      (fetches schema { o with maxDepth := limit' } source) := by
  refine SucceedsAs.bind (.refl _) fun base => ?_
  exact SucceedsAs.bind (runsAs_rewriteAll hle schema _) fun written => .refl _

/-- A schema that is bundled has been fetched for. -/
theorem exists_fetches_of_ofSchema {schema : Json} {o : Options} {source : DocumentSource}
    {b : Bundle} (h : ofSchema schema o source = .ok b) :
    ∃ uris, fetches schema o source = .ok uris := by
  obtain ⟨base, hbase, hrest⟩ := bind_eq_ok_iff.1 h
  obtain ⟨written, hwritten, -⟩ := bind_eq_ok_iff.1 hrest
  exact ⟨_, bind_eq_ok_iff.2 ⟨base, hbase, bind_eq_ok_iff.2 ⟨written, hwritten, rfl⟩⟩⟩

end Bundle

/-! ### Linking -/

namespace SchemaGraph

variable {limit limit' : Nat} {root : Json}

theorem runsAs_linkKeyword {visit visit' : Visit}
    (hvisit : ∀ pointer value origin, RunsAs (visit pointer value origin)
      (visit' pointer value origin)) (id : SchemaId) (hint : Option String) (keyword : String)
    (value : Json) (base : String) :
    RunsAs (linkKeyword visit id hint keyword value base)
      (linkKeyword visit' id hint keyword value base) := by
  obtain ⟨calls, absorb, -, heq⟩ := takesOn_linkKeyword id hint keyword value base
  rw [show linkKeyword visit id hint keyword value base = _ from heq visit,
    show linkKeyword visit' id hint keyword value base = _ from heq visit', takeOn, takeOn]
  exact (RunsAs.mapM (fun call => hvisit _ _ _) calls).bind_left _

theorem runsAs_linkNode {levels levels' : Nat} (hle : levels ≤ levels') (stack : List SchemaId)
    (pointer : String) (value : Json) (origin : Origin) :
    RunsAs (linkNode root limit levels stack pointer value origin)
      (linkNode root limit' levels' stack pointer value origin) := by
  induction levels generalizing levels' stack pointer value origin with
  | zero =>
    rw [linkNode]
    exact .throw _ _
  | succ levels ih =>
    obtain ⟨more, rfl⟩ : ∃ more, levels' = more + 1 := ⟨levels' - 1, by omega⟩
    rw [linkNode, linkNode]
    cases Bundle.bareRef? value with
    | some target =>
      dsimp only
      cases Pointer.resolve? root target with
      | none => exact .refl _
      | some targetValue =>
        dsimp only
        split
        · exact (ih (by omega) _ _ _ _).bind_left _
        · exact .refl _
    | none =>
      dsimp only
      refine .bind_right _ fun l => ?_
      cases l.byPointer.lookup pointer with
      | some id => exact .refl _
      | none =>
        dsimp only
        refine .bind_right _ fun id => .bind_right _ fun _ => ?_
        cases value with
        | object entries =>
          refine .bind_right _ fun entries => RunsAs.bind_left ?_ _
          exact .forM (fun entry => runsAs_linkKeyword (ih (by omega) _) _ _ _ _ _) _
        | _ => exact .refl _

/-- **With a higher limit a bundled document is linked as with the lower one**, where that
succeeds. -/
theorem succeedsAs_ofBundle (hle : limit ≤ limit') (b : Bundle) (o : Options) :
    SucceedsAs (ofBundle b { o with maxDepth := limit })
      (ofBundle b { o with maxDepth := limit' }) :=
  SucceedsAs.bind (runsAs_linkNode (Nat.succ_le_succ hle) _ _ _ _ _) fun _ => .refl _

end SchemaGraph

/-! ### Compiling -/

/-- The types of a graph do not depend on the limit. -/
theorem typesOf_maxDepth (graph : SchemaGraph) (name : String) (o : Options) (limit : Nat) :
    typesOf graph name { o with maxDepth := limit } = typesOf graph name o := by
  have hnormal : graph.normalize name { o with maxDepth := limit } = graph.normalize name o := rfl
  rw [typesOf, hnormal]
  exact TypeGraph.optimize_ofSchema_eq_of_later _ rfl

theorem generate_maxDepth (types : TypeGraph) (o : Options) (name : String) (limit : Nat) :
    Declaration.generate types { o with maxDepth := limit } name =
      Declaration.generate types o name := Declaration.generate_eq_of_later types o name rfl

/-- Options are refused for their limit only when it is zero. -/
theorem check_maxDepth {o : Options} {limit limit' : Nat} (h : 1 ≤ limit) (h' : 1 ≤ limit') :
    ({ o with maxDepth := limit' } : Options).check =
      ({ o with maxDepth := limit } : Options).check := by
  have hne : ¬ limit = 0 := by omega
  have hne' : ¬ limit' = 0 := by omega
  simp only [Options.check, if_neg hne, if_neg hne']
  rfl

/-- **The limit on depth only guards.**  Where a schema is bundled and linked under a limit, a
higher one leaves the bundle, the graph, what is fetched and the whole result as they are. -/
theorem compile_deeper {schema : Json} (name : String) {o : Options} {source : DocumentSource}
    {limit limit' : Nat} {b : Bundle} {g : SchemaGraph} (hpos : 1 ≤ limit) (hle : limit ≤ limit')
    (hbundle : Bundle.ofSchema schema { o with maxDepth := limit } source = .ok b)
    (hgraph : SchemaGraph.ofBundle b { o with maxDepth := limit } = .ok g) :
    Bundle.ofSchema schema { o with maxDepth := limit' } source = .ok b ∧
      SchemaGraph.ofBundle b { o with maxDepth := limit' } = .ok g ∧
      compile schema name { o with maxDepth := limit' } source =
        compile schema name { o with maxDepth := limit } source ∧
      ∃ uris, Bundle.fetches schema { o with maxDepth := limit } source = .ok uris ∧
        Bundle.fetches schema { o with maxDepth := limit' } source = .ok uris := by
  have hbundle' := Bundle.succeedsAs_ofSchema hle schema o source b hbundle
  have hgraph' := SchemaGraph.succeedsAs_ofBundle hle b o g hgraph
  have hlinked : linkedGraph schema { o with maxDepth := limit } source = .ok g :=
    bind_eq_ok_iff.2 ⟨b, hbundle, hgraph⟩
  have hlinked' : linkedGraph schema { o with maxDepth := limit' } source = .ok g :=
    bind_eq_ok_iff.2 ⟨b, hbundle', hgraph'⟩
  refine ⟨hbundle', hgraph', ?_, ?_⟩
  · unfold compile
    rw [check_maxDepth hpos (Nat.le_trans hpos hle), hlinked, hlinked']
    simp only [typesOf_maxDepth, generate_maxDepth]
  · obtain ⟨uris, huris⟩ := Bundle.exists_fetches_of_ofSchema hbundle
    exact ⟨uris, huris, Bundle.succeedsAs_fetches hle schema o source uris huris⟩

/-- Under the limit 5 as under the limit 50. -/
theorem compile_deeper_withDefinitions :
    1 ≤ 5 ∧ 5 ≤ 50 ∧ ∃ b g,
      Bundle.ofSchema withDefinitions { maxDepth := 5 } otherSource = .ok b ∧
      SchemaGraph.ofBundle b { maxDepth := 5 } = .ok g ∧
      Bundle.ofSchema withDefinitions { maxDepth := 50 } otherSource = .ok b ∧
      SchemaGraph.ofBundle b { maxDepth := 50 } = .ok g ∧
      compile withDefinitions "Root" { maxDepth := 50 } otherSource =
        compile withDefinitions "Root" { maxDepth := 5 } otherSource := by
  have hrun : (Bundle.ofSchema withDefinitions { maxDepth := 5 } otherSource).toOption.any
      (fun b => (SchemaGraph.ofBundle b { maxDepth := 5 }).toOption.any fun _ => true) = true := by
    decide +kernel
  obtain ⟨b, hb, hrun⟩ := exists_ok_of_any hrun
  obtain ⟨g, hg, -⟩ := exists_ok_of_any hrun
  obtain ⟨hb', hg', hcompile, -⟩ := compile_deeper "Root" (o := {})
    (show 1 ≤ 5 by decide) (show 5 ≤ 50 by decide) hb hg
  exact ⟨by decide, by decide, b, g, hb, hg, hb', hg', hcompile⟩

/-- The limit 1 is too low for the same schema. -/
example :
    (Bundle.ofSchema withDefinitions { maxDepth := 1 } otherSource).toOption.isNone = true := by
  decide +kernel

end SchemaTypings
