import SchemaTypings.Compile
import SchemaTypings.Proofs.UncommentedTypes

/-! # Texts but for their doc comments

A graph without comments is declared by a text without doc comments.  With comments the text is the
same, line by line, and doc comments stand before some of its lines: the two runs that write the
texts render the same types in the same order.  The policy for descriptions is a matter of comments
alone, so it decides about nothing else in the text of a compilation.
-/
namespace SchemaTypings

open TypeGraph

namespace Declaration

/-- **`text` is `bare` with doc comments before some of its lines**, and the comments are those of
types of `g`. -/
inductive Documented (g : TypeGraph) : String → String → Prop
  /-- No doc comment is added. -/
  | same (text : String) : Documented g text text
  /-- One is added before the first line. -/
  | comment {id : TypeId} {c bare text : String} (indent : String)
      (hshown : shownComment? g id = some c) (h : Documented g bare text) :
      Documented g bare (docComment c indent ++ "\n" ++ text)
  /-- Lines follow lines. -/
  | lines {bare text bare' text' : String} (h : Documented g bare text)
      (h' : Documented g bare' text') : Documented g (bare ++ "\n" ++ bare') (text ++ "\n" ++ text')

/-- **`text` is `bare` with comments before some of its lines**, each of which `P` allows. -/
inductive Annotated (P : String → Prop) : String → String → Prop
  | same (text : String) : Annotated P text text
  | comment {comment bare text : String} (hcomment : P comment) (h : Annotated P bare text) :
    Annotated P bare (comment ++ "\n" ++ text)
  | lines {bare text bare' text' : String} (h : Annotated P bare text)
    (h' : Annotated P bare' text') : Annotated P (bare ++ "\n" ++ bare') (text ++ "\n" ++ text')

/-- **The doc comments of a graph**: those of types, at the depth of blocks or of members. -/
def IsDocComment (g : TypeGraph) (comment : String) : Prop :=
  ∃ id c indent, shownComment? g id = some c ∧ indent ∈ ["", "  "] ∧ comment = docComment c indent

variable {g : TypeGraph} {o : Options} {rootName : String} {P : String → Prop}

namespace Annotated

theorem mono {Q : String → Prop} (hPQ : ∀ comment, P comment → Q comment) {bare text : String}
    (h : Annotated P bare text) : Annotated Q bare text := by
  induction h with
  | same text => exact .same text
  | comment hcomment _ ih => exact .comment (hPQ _ hcomment) ih
  | lines _ _ ih ih' => exact .lines ih ih'

theorem documented {bare text : String} (h : Annotated (IsDocComment g) bare text) :
    Documented g bare text := by
  induction h with
  | same text => exact .same text
  | comment hcomment _ ih =>
    obtain ⟨id, c, indent, hshown, -, rfl⟩ := hcomment
    exact .comment indent hshown ih
  | lines _ _ ih ih' => exact .lines ih ih'

/-- A banner stands before both. -/
theorem behind {bare text : String} (banner : String) (h : Annotated P bare text) :
    Annotated P (banner ++ "\n" ++ bare) (banner ++ "\n" ++ text) := (same banner).lines h

/-- Both end with a line break. -/
theorem ended {bare text : String} (h : Annotated P bare text) :
    Annotated P (bare ++ "\n") (text ++ "\n") := by
  have hlines := h.lines (.same "")
  rwa [String.append_empty, String.append_empty] at hlines

/-- Paragraphs follow one another behind an empty line. -/
theorem paragraphs {bares texts : List String} (h : List.Forall₂ (Annotated P) bares texts) :
    Annotated P ("\n\n".intercalate bares) ("\n\n".intercalate texts) := by
  induction h with
  | nil => exact .same _
  | @cons bare text bares texts hfirst hrest ih =>
    cases hrest with
    | nil => rwa [String.intercalate_singleton, String.intercalate_singleton]
    | cons =>
      have hbreak : ∀ a b : String, a ++ "\n\n" ++ b = a ++ "\n" ++ "\n" ++ b := by
        intro a b
        have htwo : ("\n\n" : String) = "\n" ++ "\n" := rfl
        rw [htwo, ← String.append_assoc]
      rw [String.intercalate_cons_cons, String.intercalate_cons_cons, hbreak, hbreak]
      exact hfirst.ended.lines ih

/-- Groups of lines follow one another. -/
theorem groups {bares texts : List (List String)}
    (h : List.Forall₂ (fun bare text => bare ≠ [] ∧ text ≠ [] ∧
      Annotated P ("\n".intercalate bare) ("\n".intercalate text)) bares texts) :
    Annotated P ("\n".intercalate bares.flatten) ("\n".intercalate texts.flatten) := by
  induction h with
  | nil => exact .same _
  | @cons bare text bares texts hfirst hrest ih =>
    obtain ⟨hbare, htext, hgroup⟩ := hfirst
    cases hrest with
    | nil => simpa only [List.flatten_cons, List.flatten_nil, List.append_nil] using hgroup
    | @cons bare' text' bares texts hnext =>
      -- no group is empty, so a line break stands between the first and the others
      have hbares : (bare' :: bares).flatten ≠ [] := by simp [hnext.1]
      have htexts : (text' :: texts).flatten ≠ [] := by simp [hnext.2.1]
      rw [List.flatten_cons, String.intercalate_append_of_ne_nil hbare hbares,
        List.flatten_cons (l := text), String.intercalate_append_of_ne_nil htext htexts]
      exact hgroup.lines ih

end Annotated

/-! ### Comments -/

@[simp] theorem shownComment?_uncommented (id : TypeId) :
    shownComment? g.uncommented id = none := by
  rw [shownComment?, TypeGraph.node_uncommented]
  rfl

theorem annotated_withComment (id : TypeId) {bare body : String}
    (h : Annotated (IsDocComment g) bare body) :
    Annotated (IsDocComment g) (withComment g.uncommented id bare) (withComment g id body) := by
  have hbare : withComment g.uncommented id bare = bare := by
    rw [withComment, shownComment?_uncommented]
  rw [hbare, withComment]
  split
  · next hshown => exact h.comment ⟨id, _, "", hshown, by simp, rfl⟩
  · exact h

/-! ### The sections -/

/-- **Runs that write the same but for doc comments.** -/
abbrev Comparable {α : Type} (x y : Rendering α) (Q : α → α → Prop) : Prop :=
  Matches (Eq : Texts → Texts → Prop) x y Q

theorem comparable_refl {α : Type} (x : Rendering α) : Comparable x x Eq := by
  rintro s _ rfl
  exact ⟨rfl, rfl⟩

theorem renderRaw_uncommented (g : TypeGraph) (o : Options) :
    renderRaw g.uncommented o = renderRaw g o :=
  (renderRaw_later (h := g.uncommented) rfl o).symm.trans (renderRaw_later (by simp) o)

theorem render_uncommented (g : TypeGraph) (o : Options) :
    render g.uncommented o = render g o :=
  (render_later (h := g.uncommented) rfl o).symm.trans (render_later (by simp) o)

theorem memberSignature_uncommented (g : TypeGraph) (o : Options) :
    memberSignature g.uncommented o = memberSignature g o :=
  (memberSignature_later (h := g.uncommented) rfl o).symm.trans (memberSignature_later (by simp) o)

theorem reachable_uncommented (g : TypeGraph) : g.uncommented.reachable = g.reachable :=
  reachable_eq_of_uncommented (by simp)

theorem isDeclared_uncommented (g : TypeGraph) : isDeclared g.uncommented = isDeclared g := rfl

theorem comparable_alias? (id : TypeId) :
    Comparable (alias? g.uncommented o rootName id) (alias? g o rootName id)
      (Option.Rel (Annotated (IsDocComment g))) := by
  unfold alias?
  rw [name?_uncommented, kind_uncommented, renderRaw_uncommented, isDeclared_uncommented]
  split
  · exact .pure Option.Rel.none
  · split
    · exact .pure Option.Rel.none
    · refine (comparable_refl _).bind_eq fun text => .pure (Option.Rel.some ?_)
      exact annotated_withComment id (.same _)

theorem comparable_aliases :
    Comparable (aliases g.uncommented o rootName) (aliases g o rootName)
      (List.Forall₂ (Annotated (IsDocComment g))) := by
  unfold aliases
  rw [reachable_uncommented]
  refine (Matches.mapM fun id _ => comparable_alias? id).bind fun bares texts hall => .pure ?_
  exact List.rel_filterMap (fun _ _ h => h) hall

theorem comparable_memberLines (m : Member) :
    Comparable (memberLines g.uncommented o m) (memberLines g o m) fun bare text =>
      bare ≠ [] ∧ text ≠ [] ∧
        Annotated (IsDocComment g) ("\n".intercalate bare) ("\n".intercalate text) := by
  unfold memberLines
  rw [name?_uncommented, memberSignature_uncommented, shownComment?_uncommented]
  refine (comparable_refl _).bind_eq fun signature => .pure ?_
  generalize hcomment : (if (g.name? m.type).isNone then shownComment? g m.type else none) = comment
  cases comment with
  | none => simp [Annotated.same]
  | some c =>
    have hshown : shownComment? g m.type = some c := by grind
    have hcomment : IsDocComment g (docComment c "  ") := ⟨m.type, c, "  ", hshown, by simp, rfl⟩
    simpa using Annotated.comment hcomment (.same ("  " ++ signature ++ ";"))

theorem comparable_classBlock (id : TypeId) (name : String) (members : List Member)
    (bases : List TypeId) :
    Comparable (classBlock g.uncommented o id name members bases)
      (classBlock g o id name members bases) (Annotated (IsDocComment g)) := by
  unfold classBlock
  rw [render_uncommented]
  refine (comparable_refl _).bind_eq fun bases => ?_
  refine (Matches.mapM fun m _ => comparable_memberLines m).bind fun bares texts hall => .pure ?_
  have hlines := Annotated.groups (List.rel_append hall (.cons (a := ["\x7d"]) (b := ["\x7d"])
    ⟨by simp, by simp, .same _⟩ .nil))
  rw [List.flatten_append, List.flatten_append, List.flatten_singleton] at hlines
  have hbody : Annotated (IsDocComment g)
      ("\n".intercalate (classHeader name bases :: bares.flatten ++ ["\x7d"]))
      ("\n".intercalate (classHeader name bases :: texts.flatten ++ ["\x7d"])) := by
    rw [List.cons_append, List.cons_append, String.intercalate_cons_of_ne_nil (by simp),
      String.intercalate_cons_of_ne_nil (by simp)]
    exact hlines.behind _
  have hblock := annotated_withComment id hbody
  cases o.classBanner with
  | none => exact hblock
  | some banner => exact hblock.behind banner

theorem comparable_classesFrom (emitted : List String) (ids : List TypeId) :
    Comparable (classesFrom g.uncommented o rootName emitted ids)
      (classesFrom g o rootName emitted ids) fun bare text =>
        List.Forall₂ (Annotated (IsDocComment g)) bare.1 text.1 ∧ bare.2 = text.2 := by
  induction ids generalizing emitted with
  | nil => exact .pure ⟨.nil, rfl⟩
  | cons id rest ih =>
    rw [classesFrom, classesFrom, name?_uncommented, kind_uncommented, isDeclared_uncommented]
    split
    · split
      · exact ih emitted
      · refine (comparable_classBlock id _ _ _).bind fun bare text hblock => ?_
        refine (ih _).bind fun bares texts hrest => .pure ?_
        exact ⟨.cons hblock hrest.1, hrest.2⟩
    · exact ih emitted

theorem annotated_enum? (id : TypeId) :
    Option.Rel (Annotated (IsDocComment g)) (enum? g.uncommented o id) (enum? g o id) := by
  unfold enum?
  rw [name?_uncommented, kind_uncommented]
  split
  · exact .some (annotated_withComment id (.same _))
  · exact .none

theorem annotated_enums :
    List.Forall₂ (Annotated (IsDocComment g)) (enums g.uncommented o) (enums g o) := by
  unfold enums
  rw [reachable_uncommented]
  have hids : List.Forall₂ Eq g.reachable g.reachable := List.forall₂_refl _
  refine List.rel_filterMap (fun id _ h => ?_) hids
  subst h
  exact annotated_enum? id

theorem annotated_blocks (rootName : String) :
    List.Forall₂ (Annotated (IsDocComment g)) (blocks g.uncommented o rootName)
      (blocks g o rootName) := by
  unfold blocks
  refine (comparable_aliases.bind (S := List.Forall₂ (Annotated (IsDocComment g)))
    (fun bares texts haliases => ?_) {} {} rfl).1
  unfold classes
  rw [reachable_uncommented]
  refine (comparable_classesFrom [] g.reachable).bind fun bare text hclasses => .pure ?_
  exact List.rel_append (List.rel_append haliases hclasses.1) annotated_enums

/-- **A text has the lines of the one without comments**, in order, and doc comments besides. -/
theorem annotated_generate (g : TypeGraph) (o : Options) (rootName : String) :
    Annotated (IsDocComment g) (generate g.uncommented o rootName) (generate g o rootName) := by
  have hbanner : ∀ {bare text : String}, Annotated (IsDocComment g) bare text →
      Annotated (IsDocComment g) (withBanner o bare) (withBanner o text) := by
    intro bare text h
    unfold withBanner
    split
    · exact h.behind _
    · exact h
  have hblocks := annotated_blocks (g := g) (o := o) rootName
  unfold generate
  generalize blocks g.uncommented o rootName = bares at hblocks ⊢
  generalize blocks g o rootName = texts at hblocks ⊢
  cases hblocks with
  | nil => exact .same ""
  | cons hfirst hrest =>
    have hall := List.Forall₂.cons (hbanner hfirst)
      (List.rel_map (R := Annotated (IsDocComment g)) (fun _ _ => hbanner) hrest)
    exact (Annotated.paragraphs hall).ended

/-- The doc comments are those of types. -/
theorem documented_generate (g : TypeGraph) (o : Options) (rootName : String) :
    Documented g (generate g.uncommented o rootName) (generate g o rootName) :=
  (annotated_generate g o rootName).documented

end Declaration

/-! ### Compiling -/

/-- The graph of a schema, once it is checked. -/
def checkedGraph (schema : Json) (name : String) (o : Options) (source : DocumentSource) :
    Except CompileError SchemaGraph := do
  o.check.mapError .badOptions
  let graph ← linkedGraph schema o source
  let violations := graph.violations name
  if violations.isEmpty then return graph else throw (.violations violations)

variable (schema : Json) (graph : SchemaGraph) (name : String) (o : Options) (d d' : Descriptions)
  (source : DocumentSource)

/-- **A compilation makes types of the checked graph**, and declares them. -/
theorem compile_eq_bind : compile schema name o source =
    checkedGraph schema name o source >>= fun graph =>
      (typesOf graph name o).map fun types => Declaration.generate types o name := by
  unfold compile checkedGraph
  cases o.check.mapError CompileError.badOptions with
  | error e => rfl
  | ok =>
    cases linkedGraph schema o source with
    | error e => rfl
    | ok graph =>
      simp only [bind, Except.bind]
      cases (graph.violations name).isEmpty with
      | false => rfl
      | true =>
        simp only [Bool.not_true, Bool.false_eq_true, if_false, if_true, pure, Except.pure]
        cases typesOf graph name o <;> rfl

/-- **The types of a graph are the same but for comments**, whatever the policy. -/
theorem map_uncommented_typesOf :
    (typesOf graph name { o with descriptions := d }).map TypeGraph.uncommented =
      (typesOf graph name o).map TypeGraph.uncommented := by
  have hlater : ({ o with descriptions := d } : Options).later = o.later := rfl
  rw [typesOf, TypeGraph.optimize_ofSchema_eq_of_later _ hlater]
  exact TypeGraph.map_uncommented_optimize
    (TypeGraph.uncommented_ofSchema (graph.undescribed_normalize name o d) o) o

/-- One result is an error where the other is, or both are types that differ in comments alone. -/
theorem typesOf_descriptions :
    (∃ e, typesOf graph name { o with descriptions := d } = .error e ∧
      typesOf graph name { o with descriptions := d' } = .error e) ∨
    ∃ types types', typesOf graph name { o with descriptions := d } = .ok types ∧
      typesOf graph name { o with descriptions := d' } = .ok types' ∧
      types.uncommented = types'.uncommented := by
  have hsame := (map_uncommented_typesOf graph name o d).trans
    (map_uncommented_typesOf graph name o d').symm
  cases htypes : typesOf graph name { o with descriptions := d } with
  | error e =>
    cases htypes' : typesOf graph name { o with descriptions := d' } with
    | error e' =>
      rw [htypes, htypes'] at hsame
      cases hsame
      exact .inl ⟨e, rfl, rfl⟩
    | ok types' =>
      rw [htypes, htypes'] at hsame
      cases hsame
  | ok types =>
    cases htypes' : typesOf graph name { o with descriptions := d' } with
    | error e' =>
      rw [htypes, htypes'] at hsame
      cases hsame
    | ok types' =>
      rw [htypes, htypes'] at hsame
      exact .inr ⟨types, types', rfl, rfl, Except.ok.inj hsame⟩

/-- **The policy for descriptions decides about comments alone.**  Under two policies a compilation
fails for the same cause, or brings optimized types that are the same but for comments, and texts
that are the same but for doc comments. -/
theorem compile_descriptions :
    (∃ e, compile schema name { o with descriptions := d } source = .error e ∧
      compile schema name { o with descriptions := d' } source = .error e) ∨
    ∃ graph types types' bare text text', checkedGraph schema name o source = .ok graph ∧
      typesOf graph name { o with descriptions := d } = .ok types ∧
      typesOf graph name { o with descriptions := d' } = .ok types' ∧
      types.uncommented = types'.uncommented ∧
      compile schema name { o with descriptions := d } source = .ok text ∧
      compile schema name { o with descriptions := d' } source = .ok text' ∧
      bare = Declaration.generate types.uncommented o name ∧
      Declaration.Documented types bare text ∧ Declaration.Documented types' bare text' := by
  have hchecked : ∀ d, checkedGraph schema name { o with descriptions := d } source =
    checkedGraph schema name o source := fun _ => rfl
  rw [compile_eq_bind, compile_eq_bind, hchecked d, hchecked d']
  cases checkedGraph schema name o source with
  | error e => exact .inl ⟨e, rfl, rfl⟩
  | ok graph =>
    simp only [bind, Except.bind]
    rcases typesOf_descriptions graph name o d d' with
      ⟨e, htypes, htypes'⟩ | ⟨types, types', htypes, htypes', hsame⟩
    · rw [htypes, htypes']
      exact .inl ⟨e, rfl, rfl⟩
    · have htext := Declaration.documented_generate types o name
      have htext' := Declaration.documented_generate types' o name
      rw [← hsame] at htext'
      refine .inr ⟨graph, types, types', _, _, _, rfl, htypes, htypes', hsame, ?_, ?_, rfl,
        htext, htext'⟩
      · rw [htypes]
        exact congrArg Except.ok (Declaration.generate_eq_of_later types o name rfl)
      · rw [htypes']
        exact congrArg Except.ok (Declaration.generate_eq_of_later types' o name rfl)

/-- Kept and omitted. -/
example :
    let schema : Json := .object [("description", .string "Kept."), ("type", .string "string")]
    (compile schema "Root" { descriptions := .keep } .none).toOption =
        some "/**\n * Kept.\n */\nexport type Root = string;\n" ∧
      (compile schema "Root" { descriptions := .omitAll } .none).toOption =
        some "export type Root = string;\n" := by
  decide +kernel

end SchemaTypings
