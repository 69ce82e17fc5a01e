import Mathlib.Data.List.Chain
import SchemaTypings.Proofs.DocumentedTexts
import SchemaTypings.Proofs.Identity
import SchemaTypings.Proofs.ItemBounds
import SchemaTypings.Proofs.Literals
import SchemaTypings.Proofs.TypeRanges

/-! # Doc comments end where they should

A description can hold any text, also one that would end a comment.  Normalization puts a backslash
into every end mark, and nothing that happens to the text afterwards brings an asterisk and a slash
together again: lines are added behind it, it is cut into lines that lose a carriage return, and each
line is written behind a blank.  So a doc comment holds one end mark, its own.
-/
namespace SchemaTypings

/-! ### Texts that end no comment -/

/-- **A text that ends no comment**: no slash stands right behind an asterisk. -/
def Unended (cs : List Char) : Prop := cs.IsChain fun a b => ¬ (a = '*' ∧ b = '/')

instance (cs : List Char) : Decidable (Unended cs) := by
  unfold Unended
  infer_instance

namespace Unended

variable {as bs cs : List Char}

theorem of_not_mem (h : '*' ∉ cs) : Unended cs := by
  induction cs with
  | nil => exact .nil
  | cons c cs ih =>
    obtain ⟨hc, hcs⟩ := not_or.1 (mt List.mem_cons.2 h)
    exact List.isChain_cons.2 ⟨fun d _ hend => hc hend.1.symm, ih hcs⟩

/-- What does not begin with a slash may follow. -/
theorem append (has : Unended as) (hbs : Unended bs) (hhead : bs.head? ≠ some '/') :
    Unended (as ++ bs) := by
  refine List.isChain_append.2 ⟨has, hbs, fun a _ b hb hend => hhead ?_⟩
  rw [← hend.2]
  exact hb

/-- Anything may follow what does not end with an asterisk. -/
theorem append_of_getLast? (has : Unended as) (hbs : Unended bs) (hlast : as.getLast? ≠ some '*') :
    Unended (as ++ bs) := by
  refine List.isChain_append.2 ⟨has, hbs, fun a ha b _ hend => hlast ?_⟩
  rw [← hend.1]
  exact ha

end Unended

/-- **A text that may follow any other** without ending a comment. -/
structure Follows (cs : List Char) : Prop where
  unended : Unended cs
  head : cs.head? ≠ some '/'

namespace Follows

variable {as bs : List Char}

theorem nil : Follows [] := ⟨.nil, nofun⟩

theorem append (has : Follows as) (hbs : Follows bs) : Follows (as ++ bs) where
  unended := has.unended.append hbs.unended hbs.head
  head := by
    cases as with
    | nil => exact hbs.head
    | cons a as => exact has.head

/-- A text may follow any other behind one that begins with no slash and ends with no asterisk. -/
theorem append_unended (has : Follows as) (hne : as ≠ []) (hlast : as.getLast? ≠ some '*')
    (hbs : Unended bs) : Follows (as ++ bs) where
  unended := has.unended.append_of_getLast? hbs hlast
  head := by
    rw [List.head?_append_of_ne_nil _ hne]
    exact has.head

theorem flatMap {α : Type} {f : α → List Char} {xs : List α} (h : ∀ x ∈ xs, Follows (f x)) :
    Follows (xs.flatMap f) := by
  induction xs with
  | nil => exact .nil
  | cons x xs ih =>
    rw [List.flatMap_cons]
    exact (h x List.mem_cons_self).append (ih fun y hy => h y (List.mem_cons_of_mem _ hy))

end Follows

/-! ### Escaping -/

namespace SchemaNode

/-- Escaping keeps the first character. -/
theorem head?_escapeCommentEnd (cs : List Char) : (escapeCommentEnd cs).head? = cs.head? := by
  fun_cases escapeCommentEnd cs <;> rfl

/-- **An escaped text ends no comment.** -/
theorem unended_escapeCommentEnd (cs : List Char) : Unended (escapeCommentEnd cs) := by
  induction cs using escapeCommentEnd.induct with
  | case1 rest ih =>
    rw [escapeCommentEnd]
    have hslash : Unended ('/' :: escapeCommentEnd rest) :=
      List.isChain_cons.2 ⟨fun _ _ hend => absurd hend.1 (by decide), ih⟩
    have hback : Unended ('\\' :: '/' :: escapeCommentEnd rest) :=
      List.isChain_cons.2 ⟨fun _ _ hend => absurd hend.1 (by decide), hslash⟩
    refine List.isChain_cons.2 ⟨fun b hb hend => ?_, hback⟩
    cases hb
    exact absurd hend.2 (by decide)
  | case2 c rest hno ih =>
    rw [escapeCommentEnd]
    · refine List.isChain_cons.2 ⟨fun b hb hend => ?_, ih⟩
      rw [head?_escapeCommentEnd] at hb
      obtain ⟨more, rfl⟩ : ∃ more, rest = b :: more := by
        cases rest with
        | nil => cases hb
        | cons d more => exact ⟨more, by cases hb; rfl⟩
      exact hno more hend.1 (by rw [hend.2])
    · exact hno
  | case3 => exact .nil

/-! ### Descriptions in normal schemas -/

/-- **A schema whose description ends no comment.** -/
def DescribedSafely (n : SchemaNode) : Prop := ∀ text ∈ n.description?, Unended text.toList

namespace DescribedSafely

variable {n : SchemaNode}

/-- The description is one keyword. -/
theorem of_keyword? {m : SchemaNode} (hm : m.DescribedSafely)
    (h : n.keyword? "description" = m.keyword? "description") : n.DescribedSafely := by
  rw [DescribedSafely, description?, keywordText?, h]
  exact hm

/-- A name describes nothing. -/
theorem named (h : n.DescribedSafely) (name : Option String) :
    ({ n with standaloneName := name }).DescribedSafely := h

theorem setKeyword {text : String} (h : Unended text.toList) :
    (n.setKeyword "description" (.string text)).DescribedSafely := by
  intro other hother
  rw [description?, keywordText?, keyword?, SchemaNode.setKeyword, Dict.get?_insert_self] at hother
  cases hother
  exact h

end DescribedSafely

theorem describedSafely_escapeDescription (n : SchemaNode) :
    n.escapeDescription.DescribedSafely := by
  unfold escapeDescription
  split
  · refine .setKeyword ?_
    rw [String.toList_ofList]
    exact unended_escapeCommentEnd _
  · next hnone =>
    intro text htext
    rw [hnone] at htext
    cases htext

/-- Nothing but the escaped description is written before bounds of arrays. -/
theorem describedSafely_prepared (o : Options) (isRoot : Bool) (n : SchemaNode) :
    (n.prepared o isRoot).DescribedSafely := by
  refine (describedSafely_escapeDescription
    (n.withDescriptions (keepsDescription o.descriptions isRoot))).of_keyword? ?_
  rw [prepared, keyword?_defaultAdditionalProperties, keyword?_canonicalizeKeys _ (by decide),
    keyword?_constantAsEnum _ (by decide) (by decide), keyword?_dropNullType _ (by decide)]

/-- No line for a bound holds an asterisk. -/
theorem not_mem_of_mem_boundTags {n : SchemaNode} {line : String} (h : line ∈ n.boundTags) :
    '*' ∉ line.toList := by
  have htag : ∀ (keyword : String) (value : Nat), '*' ∉ keyword.toList →
      '*' ∉ ("@" ++ keyword ++ " " ++ toString value).toList := by
    intro keyword value hkeyword
    have hvalue : '*' ∉ (toString value).toList := fun hmem =>
      absurd (Number.isDigit_of_mem_repr hmem) (by decide)
    simp only [String.toList_append, List.mem_append, not_or]
    exact ⟨⟨⟨by decide, hkeyword⟩, by decide⟩, hvalue⟩
  simp only [boundTags, List.mem_append] at h
  rcases h with h | h
  · split at h
    · rw [List.mem_singleton.1 h]
      exact htag "minItems" _ (by decide)
    · cases h
  · split at h
    · rw [List.mem_singleton.1 h]
      exact htag "maxItems" _ (by decide)
    · cases h

/-- **The bounds that are written into a description end no comment.** -/
theorem DescribedSafely.tagBounds {n : SchemaNode} (h : n.DescribedSafely) :
    n.tagBounds.DescribedSafely := by
  unfold SchemaNode.tagBounds
  split
  · exact h
  · have hadded : Unended ("\n".intercalate n.boundTags).toList := by
      refine .of_not_mem (intercalate_induction (P := fun s => '*' ∉ s.toList) (by decide)
        (fun hs ht => ?_) (by decide) fun line => not_mem_of_mem_boundTags)
      rw [String.toList_append, List.mem_append, not_or]
      exact ⟨hs, ht⟩
    unfold appendToDescription
    refine .setKeyword ?_
    split
    · next text htext =>
      rw [String.toList_append, String.toList_append, List.append_assoc]
      have hbehind : Follows ("\n\n".toList ++ ("\n".intercalate n.boundTags).toList) :=
        Follows.append_unended ⟨by decide, by decide⟩ (by decide) (by decide) hadded
      exact (h text htext).append hbehind.unended hbehind.head
    · exact hadded

/-- **No description of a normal schema ends a comment.** -/
theorem describedSafely_normalize (o : Options) (isRoot : Bool) (n : SchemaNode) :
    (n.normalize o isRoot).DescribedSafely := by
  rw [normalize_eq]
  split
  · generalize keepsDescription o.descriptions isRoot = kept
    have htag : (if kept then (n.prepared o isRoot).tagBounds else n.prepared o isRoot
        ).DescribedSafely := by
      split
      · exact (describedSafely_prepared o isRoot n).tagBounds
      · exact describedSafely_prepared o isRoot n
    refine htag.of_keyword? ?_
    rw [← keyword?_withoutItems (normalizeBounds ..) (by decide) (by decide),
      withoutItems_normalizeBounds, keyword?_withoutItems _ (by decide) (by decide)]
  · exact describedSafely_prepared o isRoot n

/-- The comment of a schema ends only where it should, with the mark of deprecated schemas too. -/
theorem DescribedSafely.commentOf {n : SchemaNode} (h : n.DescribedSafely) :
    ∀ text ∈ TypeGraph.commentOf n, Unended text.toList := by
  intro text htext
  unfold TypeGraph.commentOf at htext
  dsimp only at htext
  split at htext
  · next hdescription _ =>
    cases htext
    rw [String.toList_append]
    exact (h _ hdescription).append (by decide) (by decide)
  · next hdescription _ =>
    cases htext
    exact h _ hdescription
  · cases htext
    decide
  · cases htext

end SchemaNode

/-! ### Comments of types -/

namespace TypeGraph

/-- **No comment of a type ends early**, in the types of a graph of normal schemas. -/
theorem unended_comment_ofSchema {g : SchemaGraph} (hg : g.InRange)
    (hsafe : ∀ id, (g.node id).DescribedSafely) (o : Options) (id : TypeId) :
    ∀ text ∈ ((ofSchema g o).node id).comment, Unended text.toList := by
  intro text htext
  rcases part_or_assigned o hg.root hg.children id with ⟨kind, hnode⟩ | ⟨schema, hschema⟩
  · rw [hnode] at htext
    cases htext
  · rw [node_of_assigns hg.root hg.children hschema] at htext
    exact (hsafe schema).commentOf text htext

end TypeGraph

/-! ### Lines -/

namespace Text

/-- Every piece of a text stands in it, and the first one at its start. -/
theorem infix_of_mem_pieces {sep : Char → Bool} {cs : List Char} :
    (∀ piece ∈ (pieces sep cs).head?, piece <+: cs) ∧ ∀ piece ∈ pieces sep cs, piece <:+: cs := by
  induction cs with
  | nil => simp [pieces]
  | cons c rest ih =>
    rw [pieces]
    split
    · refine ⟨fun piece hpiece => ?_, fun piece hpiece => ?_⟩
      · cases hpiece
        exact List.nil_prefix
      · rcases List.mem_cons.1 hpiece with rfl | hpiece
        · exact List.nil_infix
        · exact (ih.2 piece hpiece).trans (List.suffix_cons c rest).isInfix
    · obtain ⟨first, more, hpieces⟩ := List.exists_cons_of_ne_nil (pieces_ne_nil sep rest)
      rw [hpieces] at ih ⊢
      have hfirst : (c :: first) <+: (c :: rest) :=
        List.cons_prefix_cons.2 ⟨rfl, ih.1 first rfl⟩
      refine ⟨fun piece hpiece => ?_, fun piece hpiece => ?_⟩
      · cases hpiece
        exact hfirst
      · rcases List.mem_cons.1 hpiece with rfl | hpiece
        · exact hfirst.isInfix
        · exact (ih.2 piece (List.mem_cons_of_mem _ hpiece)).trans (List.suffix_cons c rest).isInfix

/-- A line is a piece, or a piece without the carriage return at its end. -/
theorem exists_prefix_of_mem_linesOfPieces {ps : List (List Char)} {line : List Char}
    (h : line ∈ linesOfPieces ps) : ∃ piece ∈ ps, line <+: piece := by
  induction ps with
  | nil => cases h
  | cons piece rest ih =>
    cases rest with
    | nil =>
      rw [linesOfPieces] at h
      split at h
      · cases h
      · rw [List.mem_singleton.1 h]
        exact ⟨piece, List.mem_singleton_self piece, List.prefix_refl piece⟩
    | cons next rest =>
      rw [linesOfPieces] at h
      · rcases List.mem_cons.1 h with rfl | h
        · refine ⟨piece, List.mem_cons_self, ?_⟩
          unfold dropReturn
          split
          · exact List.dropLast_prefix piece
          · exact List.prefix_refl piece
        · obtain ⟨other, hother, hstart⟩ := ih h
          exact ⟨other, List.mem_cons_of_mem _ hother, hstart⟩
      · nofun

/-- **Cutting a text into lines brings no end mark together.** -/
theorem unended_of_mem_lines {text line : String} (h : Unended text.toList)
    (hline : line ∈ lines text) : Unended line.toList := by
  obtain ⟨cs, hcs, rfl⟩ := List.mem_map.1 hline
  obtain ⟨piece, hpiece, hstart⟩ := exists_prefix_of_mem_linesOfPieces hcs
  rw [String.toList_ofList]
  exact h.infix (hstart.isInfix.trans (infix_of_mem_pieces.2 piece hpiece))

end Text

/-! ### Doc comments -/

namespace Declaration

/-- **A comment that ends where it should**: with the end mark, which occurs nowhere else. -/
structure ClosesOnce (comment : String) : Prop where
  closed : ∃ body, comment = body ++ "*/"
  once : ∀ before behind, comment = before ++ "*/" ++ behind → behind = ""

theorem closesOnce_of_unended {body : String} (h : Unended (body ++ "*").toList) :
    ClosesOnce (body ++ "*/") where
  closed := ⟨body, rfl⟩
  once := by
    intro before behind heq
    have hchars : (body ++ "*").toList ++ ['/'] =
        before.toList ++ ['*', '/'] ++ behind.toList := by
      simpa using congrArg String.toList heq
    rcases List.eq_nil_or_concat' behind.toList with hnil | ⟨front, last, hlast⟩
    · exact String.toList_eq_nil_iff.1 hnil
    · -- an earlier end mark would stand in the text before the last slash
      rw [hlast, ← List.append_assoc] at hchars
      have hfront := (List.append_inj' hchars rfl).1
      rw [hfront] at h
      have hmark : Unended ['*', '/'] := h.infix ⟨before.toList, front, rfl⟩
      exact absurd hmark (by decide)

variable {indent : String}

theorem follows_indent (hindent : indent ∈ ["", "  "]) : Follows indent.toList := by
  simp only [List.mem_cons, List.not_mem_nil, or_false] at hindent
  rcases hindent with rfl | rfl <;> exact ⟨by decide, by decide⟩

/-- A line of a comment can stand behind any other. -/
theorem follows_commentLine (hindent : indent ∈ ["", "  "]) {line : String}
    (h : Unended line.toList) : Follows (commentLine indent line).toList := by
  unfold commentLine
  split
  · rw [String.toList_append]
    exact (follows_indent hindent).append ⟨by decide, by decide⟩
  · simp only [String.toList_append]
    rw [List.append_assoc indent.toList]
    have hline : Follows (" * ".toList ++ line.toList) :=
      Follows.append_unended ⟨by decide, by decide⟩ (by decide) (by decide) h
    exact ((follows_indent hindent).append hline).append ⟨by decide, by decide⟩

/-- **A doc comment ends where it should**, if the text in it ends no comment. -/
theorem closesOnce_docComment (hindent : indent ∈ ["", "  "]) {comment : String}
    (h : Unended comment.toList) : ClosesOnce (docComment comment indent) := by
  have hlines : Follows (String.join ((Text.lines comment).map (commentLine indent))).toList := by
    rw [String.toList_join, List.flatMap_map]
    exact .flatMap fun line hline =>
      follows_commentLine hindent (Text.unended_of_mem_lines h hline)
  have hmark : docComment comment indent = (indent ++ "/**\n" ++
      String.join ((Text.lines comment).map (commentLine indent)) ++ indent ++ " ") ++ "*/" := by
    have hends : " */" = " " ++ "*/" := rfl
    rw [docComment, hends, ← String.append_assoc]
  rw [hmark]
  refine closesOnce_of_unended ?_
  have hlast : Follows (indent ++ " *").toList := by
    rw [String.toList_append]
    exact (follows_indent hindent).append ⟨by decide, by decide⟩
  have hfirst : Unended (indent ++ "/**\n").toList := by
    simp only [List.mem_cons, List.not_mem_nil, or_false] at hindent
    rcases hindent with rfl | rfl <;> decide
  have hbehind := hlines.append hlast
  have hbody := hfirst.append hbehind.unended hbehind.head
  simpa [List.append_assoc] using hbody

end Declaration

/-! ### Compiling -/

/-- No schema of a normal graph has a description that ends a comment. -/
theorem SchemaGraph.describedSafely_node_normalize (graph : SchemaGraph) (name : String)
    (o : Options) (id : SchemaId) : ((graph.normalize name o).node id).DescribedSafely :=
  node_normalize_induction (fun _ htext => absurd htext (Option.not_mem_none _))
    (fun id => SchemaNode.describedSafely_normalize o (id = graph.root) (graph.node id))
    (fun _ name h => h.named name) name id

/-- **No comment of the types of a schema graph ends early**: the normal forms have all that is in
them, and optimizing has kept them. -/
theorem unended_comment_typesOf {graph : SchemaGraph} (hgraph : graph.InRange) {name : String}
    {o : Options} {types : TypeGraph} (htypes : typesOf graph name o = .ok types) (id : TypeId) :
    ∀ text ∈ (types.node id).comment, Unended text.toList := by
  rw [(TypeGraph.passed_optimize htypes).node id]
  exact TypeGraph.unended_comment_ofSchema (hgraph.normalize name o)
    (graph.describedSafely_node_normalize name o) o id

/-- **Doc comments cannot be escaped.**  The text of a compilation is that of its types without
comments, with doc comments of the types before some lines; and whatever the descriptions say, the
doc comment of a type, at the depth of blocks and at that of members, ends with an end mark and holds
no other. -/
theorem compile_comments_close_once {schema : Json} {name : String} {o : Options}
    {source : DocumentSource} {text : String} (h : compile schema name o source = .ok text) :
    ∃ graph types, linkedGraph schema o source = .ok graph ∧ typesOf graph name o = .ok types ∧
      Declaration.Annotated (Declaration.IsDocComment types)
        (Declaration.generate types.uncommented o name) text ∧
      ∀ comment, Declaration.IsDocComment types comment → Declaration.ClosesOnce comment := by
  obtain ⟨-, graph, hgraph, -, types, htypes, rfl⟩ := compile_eq_ok_iff.1 h
  refine ⟨graph, types, hgraph, htypes, Declaration.annotated_generate types o name, ?_⟩
  rintro comment ⟨id, c, indent, hshown, hindent, rfl⟩
  obtain ⟨b, hb⟩ := SchemaGraph.exists_bundle hgraph
  have hcomment : (types.node id).comment = some c := (Option.filter_eq_some_iff.1 hshown).1
  exact Declaration.closesOnce_docComment hindent
    (unended_comment_typesOf (SchemaGraph.inRange_of_ofBundle hb) htypes id c hcomment)

/-- Descriptions that hold end marks, some of them in parts, with bounds and a deprecated member. -/
def closingTexts : Json :=
  .object [("title", .string "Pair"), ("description", .string "Ends */ here.*\r\n/ And **//."),
    ("properties", .object [("both", .object [("type", .string "array"),
      ("items", .object [("type", .string "string")]), ("minItems", .ofNat 2),
      ("maxItems", .ofNat 2), ("deprecated", .bool true), ("description", .string "*/*")])])]

/-- Their declaration. -/
def closedTexts : String :=
  "/**\n * Ends *\\/ here.*\n * / And **\\//.\n */\nexport class Pair \x7b\n" ++
    "  /**\n   * *\\/*\n   *\n   * @minItems 2\n   * @maxItems 2\n   *\n   * @deprecated\n" ++
    "   */\n  both?: [string, string];\n\x7d\n"

/-- Each of the two comments ends once, although the descriptions hold end marks. -/
theorem compile_comments_close_once_closingTexts :
    compile closingTexts "Pair" {} .none = .ok closedTexts ∧
      ∃ graph types, linkedGraph closingTexts {} .none = .ok graph ∧
        typesOf graph "Pair" {} = .ok types ∧
        Declaration.Annotated (Declaration.IsDocComment types)
          (Declaration.generate types.uncommented {} "Pair") closedTexts ∧
        ∀ comment, Declaration.IsDocComment types comment → Declaration.ClosesOnce comment := by
  have hrun : (compile closingTexts "Pair" {} .none).toOption.any (· = closedTexts) = true := by
    decide +kernel
  obtain ⟨text, htext, hshown⟩ := exists_ok_of_any hrun
  obtain rfl := of_decide_eq_true hshown
  exact ⟨htext, compile_comments_close_once htext⟩

end SchemaTypings
