import SchemaTypings.Proofs.Declaring
import SchemaTypings.Proofs.DistinctMembers
import SchemaTypings.Proofs.RenderedTexts

/-! # Texts that tell members apart

A class is written inside other types where it has no name, and as a block where it is declared.  In
both its members stand as signatures, each with the key of a field before the colon; no two of them
have the same key, and at most one is an index signature.  The entries of an enumeration that is
declared have distinct labels, and beside them stand the values that the schema lists.
-/
namespace SchemaTypings

/-! ### Signatures -/

/-- **A signature of a field**: its key as it is written, the mark of an optional one, and a type. -/
def Field.IsSignature (f : Field) (signature : String) : Prop :=
  ∃ type, signature = f.writtenKey ++ (if f.optional then "?" else "") ++ ": " ++ type

/-- **A signature is that of one field only.** -/
theorem Field.IsSignature.unique {f f' : Field} {signature : String} (h : f.IsSignature signature)
    (h' : f'.IsSignature signature) : f = f' := by
  obtain ⟨type, rfl⟩ := h
  obtain ⟨type', heq⟩ := h'
  have htext : ∀ f : Field, f.writtenKey ++ (if f.optional then "?" else "") = f.text := fun _ => rfl
  rw [htext, htext] at heq
  have hchars := congrArg String.toList heq
  simp only [String.toList_append, List.append_assoc] at hchars
  exact (Phrase.fieldText_injective hchars).1

/-- **Signatures that are told apart**: they can be read as those of fields, and then no two are
written with the same key, and at most one is an index signature. -/
structure SignaturesApart (signatures : List String) : Prop where
  read : ∃ fields, List.Forall₂ Field.IsSignature fields signatures
  apart : ∀ fields, List.Forall₂ Field.IsSignature fields signatures → Field.Apart fields

theorem signaturesApart_of_fields {fields : List Field} (hfields : Field.Apart fields)
    {signatures : List String} (h : List.Forall₂ Field.IsSignature fields signatures) :
    SignaturesApart signatures where
  read := ⟨fields, h⟩
  apart := by
    intro others hothers
    have hunique : Relator.LeftUnique Field.IsSignature := fun _ _ _ hf hf' => hf.unique hf'
    rw [Relator.LeftUnique.forall₂ hunique hothers h]
    exact hfields

namespace TypeGraph

variable {graph : SchemaGraph} {g : TypeGraph} {o : Options} {id : TypeId}

/-- A member is written as a signature of its field. -/
theorem isSignature_signatureText (o : Options) (m : Member) (type : String) :
    m.field.IsSignature (signatureText o m type) := by
  refine ⟨if m.isIndex && o.strictIndexSignatures then parenthesize type ++ " | undefined" else type,
    ?_⟩
  unfold signatureText
  cases hindex : m.isIndex <;> cases hrequired : m.isRequired <;>
    simp [Field.writtenKey, Member.field, hindex, hrequired]

/-- A member is written with a text of its type that `R` allows. -/
def IsMemberText (o : Options) (R : TypeId → String → Prop) (m : Member) (signature : String) :
    Prop :=
  ∃ type, R m.type type ∧ signature = signatureText o m type

/-- **The signatures of a class**: those of its visible members, told apart. -/
structure AreSignatures (o : Options) (R : TypeId → String → Prop) (members : List Member)
    (signatures : List String) : Prop where
  written : List.Forall₂ (IsMemberText o R) (members.filter Member.isVisible) signatures
  apart : SignaturesApart signatures

/-- The members of a class are told apart as its fields are. -/
theorem areSignatures_of_apart {R : TypeId → String → Prop} {members : List Member}
    (hfields : Field.Apart (shownFields members)) {signatures : List String}
    (h : List.Forall₂ (IsMemberText o R) (members.filter Member.isVisible) signatures) :
    AreSignatures o R members signatures where
  written := h
  apart := by
    refine signaturesApart_of_fields hfields
      (List.forall₂_map_left_iff.2 (h.imp fun m signature hm => ?_))
    obtain ⟨type, -, rfl⟩ := hm
    exact isSignature_signatureText o m type

/-! ### Texts of types -/

/-- **A text of a type in which classes tell their members apart**, those inside it included. -/
inductive ToldText (g : TypeGraph) (o : Options) : TypeId → String → Prop where
  | placeholder (id : TypeId) : ToldText g o id o.placeholder
  | record {R : TypeId → String → Prop} {id : TypeId} {members : List Member} {bases : List TypeId}
      {signatures : List String} (hparts : ∀ part text, R part text → ToldText g o part text)
      (hkind : g.kind id = .record members bases)
      (hsignatures : AreSignatures o (g.UsedAs R) members signatures) :
      ToldText g o id (recordText signatures)
  | other {R : TypeId → String → Prop} {id : TypeId} {text : String}
      (hparts : ∀ part text, R part text → ToldText g o part text)
      (hkind : (g.kind id).isRecord = false) (htext : HasText o (g.UsedAs R) (g.kind id) text) :
      ToldText g o id text

/-- **Every text of a type tells members apart**, where the types do. -/
theorem TellsMembers.kept (hg : TellsMembers graph g) (o : Options) : Kept g o (ToldText g o) where
  placeholder := .placeholder
  kind id _ text htext := by
    cases hrecord : (g.kind id).isRecord with
    | false => exact .other (fun _ _ h => h) hrecord htext
    | true =>
      obtain ⟨members, bases, hkind⟩ := TypeKind.eq_record hrecord
      rw [hkind] at htext
      obtain ⟨signatures, hsignatures, rfl⟩ := htext
      exact .record (fun _ _ h => h) hkind
        (areSignatures_of_apart (hg.fields id members bases hkind) hsignatures)

end TypeGraph

namespace Declaration

open TypeGraph

/-! ### Blocks -/

/-- A class behind the banner of classes. -/
def behindClassBanner (o : Options) (block : String) : String :=
  o.classBanner.elim block fun banner => banner ++ "\n" ++ block

/-- A line with a signature, perhaps behind a doc comment. -/
def IsMemberLines (signature : String) (lines : List String) : Prop :=
  ∃ comment : Option String, lines = comment.toList ++ ["  " ++ signature ++ ";"]

/-- **A block that tells members apart**: an alias with such a text, a class with such signatures, or
an enumeration with distinct labels, whose values are those that its schema lists, in order. -/
inductive ToldBlock (graph : SchemaGraph) (g : TypeGraph) (o : Options) : String → Prop where
  | alias {id : TypeId} {name text : String} (hname : g.name? id = some name)
      (htext : ToldText g o id text) :
      ToldBlock graph g o (withComment g id ("export type " ++ name ++ " = " ++ text ++ ";"))
  | record {id : TypeId} {name : String} {members : List Member} {bases : List TypeId}
      {baseTexts signatures : List String} {lines : List (List String)}
      (hname : g.name? id = some name) (hkind : g.kind id = .record members bases)
      (hbases : List.Forall₂ (g.UsedAs (ToldText g o)) bases baseTexts)
      (hsignatures : AreSignatures o (g.UsedAs (ToldText g o)) members signatures)
      (hlines : List.Forall₂ IsMemberLines signatures lines) :
      ToldBlock graph g o (behindClassBanner o (withComment g id ("\n".intercalate
        (classHeader name baseTexts :: lines.flatten ++ ["\x7d"]))))
  | enumeration {id : TypeId} {name : String} {entries : List EnumEntry} {schema : SchemaId}
      (hname : g.name? id = some name) (hkind : g.kind id = .enumeration entries)
      (hlabels : (entries.map fun entry => Identifier.keyText entry.label).Nodup)
      (hschema : schema < graph.size)
      (horigin : (g.node id).origin = some (graph.node schema).pointer)
      (hvalues : entries.map EnumEntry.value = (graph.node schema).listedValues) :
      ToldBlock graph g o (withComment g id
        ((if o.constEnums then "export const enum " else "export enum ") ++ name ++ " \x7b\n" ++
          ",\n".intercalate (entries.map enumEntry) ++ "\n\x7d"))

variable {graph : SchemaGraph} {g : TypeGraph} {o : Options} {rootName : String} {texts : Texts}
  (hg : TellsMembers graph g)

include hg

theorem told_aliases (htexts : Remembers (ToldText g o) texts) :
    After (aliases g o rootName) texts fun blocks t =>
      Remembers (ToldText g o) t ∧ ∀ block ∈ blocks, ToldBlock graph g o block := by
  have halias : ∀ id ∈ g.reachable, ∀ s, Remembers (ToldText g o) s →
      After (alias? g o rootName id) s fun block t => Remembers (ToldText g o) t ∧
        ∀ text ∈ block, ToldBlock graph g o text := by
    intro id _ s hs
    have hnone : ∀ text ∈ (none : Option String), ToldBlock graph g o text := fun text htext =>
      absurd htext (Option.not_mem_none text)
    unfold alias?
    split
    · exact after_pure.2 ⟨hs, hnone⟩
    · next name hname =>
      split
      · exact after_pure.2 ⟨hs, hnone⟩
      · refine after_bind.2 (((hg.kept o).after_renderRaw id hs).mono fun text t ⟨ht, htext⟩ => ?_)
        refine after_pure.2 ⟨ht, fun block hblock => ?_⟩
        rw [← Option.mem_some.1 hblock]
        exact .alias hname htext
  unfold aliases
  refine after_bind.2 ((after_mapM_forall₂ halias htexts).mono fun blocks t ⟨ht, hblocks⟩ => ?_)
  refine after_pure.2 ⟨ht, fun block hblock => ?_⟩
  obtain ⟨found, hfound, hmem⟩ := List.mem_filterMap.1 hblock
  obtain ⟨id, -, hid⟩ := exists_left_of_forall₂ hblocks found hfound
  exact hid block hmem

/-- The lines of a member. -/
theorem told_memberLines (m : Member) (htexts : Remembers (ToldText g o) texts) :
    After (memberLines g o m) texts fun lines t => Remembers (ToldText g o) t ∧
      ∃ signature, IsMemberText o (g.UsedAs (ToldText g o)) m signature ∧
        IsMemberLines signature lines := by
  unfold memberLines memberSignature
  refine after_bind.2 (after_map.2 (((hg.kept o).after_render m.type htexts).mono
    fun type t ⟨ht, htype⟩ => after_pure.2 ⟨ht, _, ⟨type, htype, rfl⟩, ?_⟩))
  exact ⟨_, rfl⟩

theorem told_classBlock {id : TypeId} {name : String} {members : List Member} {bases : List TypeId}
    (hname : g.name? id = some name) (hkind : g.kind id = .record members bases)
    (htexts : Remembers (ToldText g o) texts) :
    After (classBlock g o id name members bases) texts fun block t =>
      Remembers (ToldText g o) t ∧ ToldBlock graph g o block := by
  unfold classBlock
  refine after_bind.2 ((after_mapM_forall₂ (fun base _ s hs => (hg.kept o).after_render base hs)
    htexts).mono fun baseTexts s ⟨hs, hbases⟩ => ?_)
  refine after_bind.2 ((after_mapM_forall₂ (fun m _ s hs => told_memberLines hg m hs) hs).mono
    fun lines t ⟨ht, hlines⟩ => after_pure.2 ⟨ht, ?_⟩)
  obtain ⟨signatures, hwritten, hlines⟩ := exists_between_of_forall₂ hlines
  have hsignatures := areSignatures_of_apart (hg.fields id members bases hkind) hwritten
  have hblock : ToldBlock graph g o _ := .record hname hkind hbases hsignatures hlines
  unfold behindClassBanner at hblock
  cases hbanner : o.classBanner with
  | none =>
    rw [hbanner] at hblock
    exact hblock
  | some banner =>
    rw [hbanner] at hblock
    exact hblock

/-- Every class is declared so, by induction on the types. -/
theorem told_classesFrom (emitted : List String) (ids : List TypeId)
    (htexts : Remembers (ToldText g o) texts) :
    After (classesFrom g o rootName emitted ids) texts fun result t =>
      Remembers (ToldText g o) t ∧ ∀ block ∈ result.1, ToldBlock graph g o block := by
  induction ids generalizing emitted texts with
  | nil => exact after_pure.2 ⟨htexts, fun _ h => absurd h List.not_mem_nil⟩
  | cons id rest ih =>
    unfold classesFrom
    split
    · next name members bases hname hkind =>
      split
      · exact ih emitted htexts
      · refine after_bind.2 ((told_classBlock hg hname hkind htexts).mono
          fun block t ⟨ht, hblock⟩ => ?_)
        refine after_bind.2 ((ih (name :: emitted) ht).mono fun result u ⟨hu, hrest⟩ => ?_)
        exact after_pure.2 ⟨hu, List.forall_mem_cons.2 ⟨hblock, hrest⟩⟩
    · exact ih emitted htexts

/-- Every enumeration is declared so. -/
theorem told_enum? {id : TypeId} {block : String} (h : enum? g o id = some block) :
    ToldBlock graph g o block := by
  unfold enum? at h
  split at h
  · next name entries hname hkind =>
    obtain ⟨schema, hlt, horigin, hvalues⟩ := hg.values id name entries hname hkind
    have hlabels : (entries.map fun entry => Identifier.keyText entry.label).Nodup := by
      have hnodup := (hg.labels id entries hkind).map fun _ _ => Phrase.keyText_injective
      rwa [List.map_map] at hnodup
    cases h
    exact .enumeration hname hkind hlabels hlt horigin hvalues
  · cases h

/-- **Every block tells members apart**, where the types do. -/
theorem told_blocks (o : Options) (rootName : String) :
    ∀ block ∈ blocks g o rootName, ToldBlock graph g o block := by
  refine blocks_of_after (P := fun list => ∀ block ∈ list, ToldBlock graph g o block) rootName ?_
  refine (told_aliases hg (remembers_nil _)).mono fun aliases s ⟨hs, haliases⟩ => ?_
  refine (told_classesFrom hg [] g.reachable hs).mono fun result _ ⟨_, hclasses⟩ => ?_
  intro block hblock
  simp only [List.mem_append] at hblock
  rcases hblock with (hblock | hblock) | hblock
  · exact haliases block hblock
  · exact hclasses block hblock
  · obtain ⟨id, -, hid⟩ := List.mem_filterMap.1 hblock
    exact told_enum? hg hid

end Declaration

/-! ### Compiling -/

/-- **No declaration repeats a member.**  Whatever a compilation declares: the signatures of a class,
declared or written inside another type, have keys that are written differently, of which one at most
is an index signature, also when a property is called like one; and the labels of an enumeration are
written differently, beside the values that its schema lists, in order. -/
theorem compile_tells_members_apart {schema : Json} {name : String} {o : Options}
    {source : DocumentSource} {text : String} (hschema : schema.hasDistinctKeys = true)
    (hsource : ∀ uri value, source.fetch uri = .ok value → value.hasDistinctKeys = true)
    (h : compile schema name o source = .ok text) :
    ∃ graph types, linkedGraph schema o source = .ok graph ∧ typesOf graph name o = .ok types ∧
      text = Declaration.generate types o name ∧
      ∀ block ∈ Declaration.blocks types o name, Declaration.ToldBlock graph types o block := by
  obtain ⟨-, graph, hgraph, -, types, htypes, rfl⟩ := compile_eq_ok_iff.1 h
  have htells := tellsMembers_typesOf hschema hsource hgraph htypes
  exact ⟨graph, types, hgraph, htypes, rfl, Declaration.told_blocks htells o name⟩

/-- A schema with properties that are called like an index signature, two that one rule gives one
key, a pattern and a definition of that key, and an enumeration with labels of its own. -/
def crowdedShelf : Json :=
  .object [("properties", .object [("[k: string]", .object [("type", .string "number")]),
      ("bookA", .object [("type", .string "string")]), ("bookB", .object [("type", .string "null")]),
      ("rest", .object [("type", .array [.string "object", .string "null"]),
        ("patternProperties", .object [("^x", .bool true)]),
        ("additionalProperties", .bool false),
        ("properties", .object [("[k: string]", .bool true)])]),
      ("mood", .object [("title", .string "Mood"), ("enum", .array [.string "b", .string "a"]),
        ("tsEnumNames", .array [.string "high tide", .string "Low"])])]),
    ("patternProperties", .object [("book", .object [])]),
    ("additionalProperties", .object [("type", .string "number")]),
    ("definitions", .object [("book", .object [("type", .string "boolean")])])]

/-- The rule for books, and definitions kept. -/
def Options.oneBook : Options :=
  { unreachableDefinitions := true, keyRules := [⟨"book", "book"⟩] }

/-- The declarations of the shelf. -/
def tidyShelf : String :=
  "export type Rest = (\x7b \"[k: string]\"?: unknown; [k: string]: unknown \x7d | null);\n\n" ++
    "export type Book = boolean;\n\n" ++
    "export class Shelf \x7b\n  \"[k: string]\"?: number;\n  book?: string;\n  rest?: Rest;\n" ++
    "  mood?: Mood;\n  [k: string]: number;\n\x7d\n\n" ++
    "export const enum Mood \x7b\n  \"high tide\" = \"b\",\n  Low = \"a\"\n\x7d\n"

/-- The quoted key, the one book and the index signature stand once each, and so do the labels. -/
theorem compile_tells_members_apart_crowdedShelf :
    crowdedShelf.hasDistinctKeys = true ∧
      compile crowdedShelf "Shelf" .oneBook .none = .ok tidyShelf ∧
      ∃ graph types, linkedGraph crowdedShelf .oneBook .none = .ok graph ∧
        typesOf graph "Shelf" .oneBook = .ok types ∧
        tidyShelf = Declaration.generate types .oneBook "Shelf" ∧
        ∀ block ∈ Declaration.blocks types .oneBook "Shelf",
          Declaration.ToldBlock graph types .oneBook block := by
  have hrun : (compile crowdedShelf "Shelf" .oneBook .none).toOption.any (· = tidyShelf) = true := by
    decide +kernel
  obtain ⟨text, htext, hshown⟩ := exists_ok_of_any hrun
  obtain rfl := of_decide_eq_true hshown
  have hkeys : crowdedShelf.hasDistinctKeys = true := by decide
  have hsource : ∀ uri value, DocumentSource.none.fetch uri = .ok value →
      value.hasDistinctKeys = true := by
    intro uri value hfetch
    cases hfetch
  exact ⟨hkeys, htext, compile_tells_members_apart hkeys hsource htext⟩

end SchemaTypings
