import SchemaTypings.Proofs.Stateful
import SchemaTypings.TypeGraph.Render

/-! # What holds of every text that is written

A text is made from the texts of the parts that its type shows, and one that is remembered was made
in the same way before.  So a property of types and texts holds of whatever a renderer answers, if it
holds of the placeholder and of every text that is made from texts with the property.  Nothing is
asked of the cycles of the graph.
-/
namespace SchemaTypings

/-- The parts of a kind that its text shows: all but hidden members and bases. -/
def TypeKind.shown : TypeKind → List TypeId
  | .record members _ => (members.filter Member.isVisible).map Member.type
  | kind => kind.children

namespace TypeGraph

/-! ### The text of a kind -/

/-- The text of a kind whose parts have the texts that `use` gives. -/
def textFrom (o : Options) (use : TypeId → String) (kind : TypeKind) : String :=
  ((kindText o (fun part => pure (use part)) kind).run {}).1

section textFrom

variable (o : Options) (use : TypeId → String)

theorem textFrom_array (element : TypeId) :
    textFrom o use (.array element) = arrayText (use element) := rfl

theorem textFrom_tuple (elements : List TypeId) (min : Nat) (max : Option Nat)
    (spread : Option TypeId) :
    textFrom o use (.tuple elements min max spread) =
      boundedText o.placeholder (elements.map use) min max (spread.map use) := by
  rw [textFrom, kindText, List.mapM_pure]
  cases spread <;> rfl

theorem textFrom_union (members : List TypeId) :
    textFrom o use (.union members) = unionText (members.map use) := by
  rw [textFrom, kindText, List.mapM_pure]
  rfl

theorem textFrom_intersection (members : List TypeId) :
    textFrom o use (.intersection members) = intersectionText (members.map use) := by
  rw [textFrom, kindText, List.mapM_pure]
  rfl

theorem textFrom_record (members : List Member) (bases : List TypeId) :
    textFrom o use (.record members bases) =
      recordText ((members.filter Member.isVisible).map fun m => signatureText o m (use m.type)) := by
  have hmembers : ((members.filter Member.isVisible).mapM fun m =>
      signatureText o m <$> (pure (use m.type) : Rendering String)) =
      pure ((members.filter Member.isVisible).map fun m => signatureText o m (use m.type)) :=
    List.mapM_pure
  rw [textFrom, kindText, hmembers]
  rfl

end textFrom

/-- **A text of a kind**, made from texts of the parts that it shows, which `R` relates to them. -/
def HasText (o : Options) (R : TypeId → String → Prop) : TypeKind → String → Prop
  | .array element, text => ∃ t, R element t ∧ text = arrayText t
  | .tuple elements min max spread, text =>
    ∃ ts further, List.Forall₂ R elements ts ∧ Option.Rel R spread further ∧
      text = boundedText o.placeholder ts min max further
  | .union members, text => ∃ ts, List.Forall₂ R members ts ∧ text = unionText ts
  | .intersection members, text => ∃ ts, List.Forall₂ R members ts ∧ text = intersectionText ts
  | .record members _, text =>
    ∃ signatures, List.Forall₂ (fun m signature => ∃ t, R m.type t ∧ signature = signatureText o m t)
      (members.filter Member.isVisible) signatures ∧ text = recordText signatures
  | kind, text => text = textFrom o (fun _ => "") kind

/-- A type is written as its name, or else as a text that `P` allows. -/
def UsedAs (g : TypeGraph) (P : TypeId → String → Prop) (id : TypeId) (text : String) : Prop :=
  match g.name? id with
  | some name => text = name
  | none => P id text

variable {g : TypeGraph} {o : Options} {P : TypeId → String → Prop}

/-- All texts that are remembered have the property. -/
def Remembers (P : TypeId → String → Prop) (texts : Texts) : Prop :=
  ∀ entry ∈ texts, P entry.1 entry.2

theorem remembers_nil (P : TypeId → String → Prop) : Remembers P [] :=
  fun _ hentry => absurd hentry List.not_mem_nil

/-- The text of a kind is made from the texts of its parts. -/
theorem after_kindText_of {I : Texts → Prop} {R : TypeId → String → Prop}
    {use : TypeId → Rendering String} {kind : TypeKind}
    (huse : ∀ c ∈ kind.shown, ∀ s, I s → After (use c) s fun text t => I t ∧ R c text) {s : Texts}
    (hs : I s) : After (kindText o use kind) s fun text t => I t ∧ HasText o R kind text := by
  have hparts : ∀ ids : List TypeId, (∀ c ∈ ids, c ∈ kind.shown) → ∀ s, I s →
      After (ids.mapM use) s fun texts t => I t ∧ List.Forall₂ R ids texts :=
    fun ids hids s hs => after_mapM_forall₂ (fun c hc => huse c (hids c hc)) hs
  cases kind with
  | array element =>
    exact after_map.2 ((huse element (List.mem_singleton_self _) s hs).mono
      fun text t ⟨ht, htext⟩ => ⟨ht, text, htext, rfl⟩)
  | tuple elements min max spread =>
    have helements := hparts elements (fun c hc => List.mem_append_left _ hc) s hs
    refine after_bind.2 (helements.mono fun texts t ⟨ht, htexts⟩ => after_bind.2 ?_)
    have hrest : After (spread.mapM use) t fun further u => I u ∧ Option.Rel R spread further := by
      cases spread with
      | none => exact after_pure.2 ⟨ht, .none⟩
      | some c =>
        have hshown : c ∈ (TypeKind.tuple elements min max (some c)).shown :=
          List.mem_append_right _ (List.mem_singleton_self c)
        exact after_map.2 ((huse c hshown t ht).mono fun text u ⟨hu, htext⟩ => ⟨hu, .some htext⟩)
    exact hrest.mono fun further u ⟨hu, hfurther⟩ =>
      after_pure.2 ⟨hu, texts, further, htexts, hfurther, rfl⟩
  | union members =>
    exact after_map.2 ((hparts members (fun _ hc => hc) s hs).mono
      fun texts t ⟨ht, htexts⟩ => ⟨ht, texts, htexts, rfl⟩)
  | intersection members =>
    exact after_map.2 ((hparts members (fun _ hc => hc) s hs).mono
      fun texts t ⟨ht, htexts⟩ => ⟨ht, texts, htexts, rfl⟩)
  | record members bases =>
    have hmembers : ∀ m ∈ members.filter Member.isVisible, ∀ s, I s →
        After (signatureText o m <$> use m.type) s fun signature t =>
          I t ∧ ∃ t, R m.type t ∧ signature = signatureText o m t := by
      intro m hm s hs
      have hshown : m.type ∈ (TypeKind.record members bases).shown := List.mem_map.2 ⟨m, hm, rfl⟩
      exact after_map.2 ((huse m.type hshown s hs).mono fun text t ⟨ht, htext⟩ =>
        ⟨ht, text, htext, rfl⟩)
    exact after_map.2 ((after_mapM_forall₂ hmembers hs).mono
      fun signatures t ⟨ht, hsignatures⟩ => ⟨ht, signatures, hsignatures, rfl⟩)
  | any | unknown | null | boolean | number | string | literal _ | object | enumeration _
  | reference _ | custom _ => exact after_pure.2 ⟨hs, rfl⟩

/-- The text of a kind whose parts have one text each. -/
theorem HasText.eq_textFrom {use : TypeId → String} {kind : TypeKind} {text : String}
    (h : HasText o (fun c t => t = use c) kind text) : text = textFrom o use kind := by
  cases kind with
  | array element =>
    obtain ⟨t, rfl, rfl⟩ := h
    rw [textFrom_array]
  | tuple elements min max spread =>
    obtain ⟨ts, further, hts, hfurther, rfl⟩ := h
    have hspread : further = spread.map use := by
      cases hfurther with
      | some h => exact congrArg some h
      | none => rfl
    rw [textFrom_tuple, eq_map_of_forall₂ hts, hspread]
  | union members =>
    obtain ⟨ts, hts, rfl⟩ := h
    rw [textFrom_union, eq_map_of_forall₂ hts]
  | intersection members =>
    obtain ⟨ts, hts, rfl⟩ := h
    rw [textFrom_intersection, eq_map_of_forall₂ hts]
  | record members bases =>
    obtain ⟨signatures, hsignatures, rfl⟩ := h
    have hall : List.Forall₂ (fun m signature => signature = signatureText o m (use m.type))
        (members.filter Member.isVisible) signatures :=
      hsignatures.imp fun m signature ⟨t, ht, hsignature⟩ =>
        hsignature.trans (congrArg (signatureText o m) ht)
    rw [textFrom_record, eq_map_of_forall₂ hall]
  | any | unknown | null | boolean | number | string | literal _ | object | enumeration _
  | reference _ | custom _ => exact h

/-- A type is used by its name, or by a text that is remembered or written out for it. -/
theorem after_useText_of {raw : TypeId → Rendering String} {id : TypeId}
    (hraw : g.name? id = none → ∀ s, Remembers P s →
      After (raw id) s fun text t => Remembers P t ∧ P id text) {s : Texts} (hs : Remembers P s) :
    After (useText g raw id) s fun text t => Remembers P t ∧ g.UsedAs P id text := by
  unfold useText UsedAs
  cases hname : g.name? id with
  | some name => exact after_pure.2 ⟨hs, rfl⟩
  | none =>
    refine after_bind.2 (after_get.2 ?_)
    cases hlookup : s.lookup id with
    | some text =>
      refine after_pure.2 ⟨hs, ?_⟩
      obtain ⟨before, after, rfl, -⟩ := List.lookup_eq_some_iff.1 hlookup
      exact hs (id, text) (List.mem_append_right _ (List.mem_cons_self ..))
    | none =>
      refine after_bind.2 ((hraw hname s hs).mono fun text t ⟨ht, htext⟩ => ?_)
      refine after_bind.2 (after_modify.2 (after_pure.2 ⟨fun entry hentry => ?_, htext⟩))
      rcases List.mem_cons.1 hentry with rfl | hentry
      · exact htext
      · exact ht entry hentry

/-- **A property of types and texts that rendering keeps**: the placeholder has it for every type,
and so has every text that is made from texts of parts with the property. -/
structure Kept (g : TypeGraph) (o : Options) (P : TypeId → String → Prop) : Prop where
  placeholder : ∀ id, P id o.placeholder
  kind : ∀ id < g.size, ∀ text, HasText o (g.UsedAs P) (g.kind id) text → P id text

namespace Kept

/-- **A structure is written as a text with the property**, whatever is written around it and
whatever is remembered. -/
theorem after_rawText (h : Kept g o P) (active : List TypeId) (id : TypeId) {s : Texts}
    (hs : Remembers P s) :
    After (g.rawText o active id) s fun text t => Remembers P t ∧ P id text := by
  -- by the number of types that are not being written
  induction hn : (g.idle active).length using Nat.strongRecOn generalizing active id s with
  | _ n ih =>
    rw [rawText]
    split
    · next hid =>
      have hparts : ∀ c ∈ (g.kind id).shown, ∀ s, Remembers P s →
          After (g.useText (fun child => g.rawText o (id :: active) child) c) s
            fun text t => Remembers P t ∧ g.UsedAs P c text := by
        intro c _ s hs
        refine after_useText_of (fun _ s hs => ?_) hs
        exact ih _ (hn ▸ length_idle_cons_lt hid.1 hid.2) (id :: active) c hs rfl
      exact (after_kindText_of hparts hs).mono fun text t ⟨ht, htext⟩ =>
        ⟨ht, h.kind id hid.1 text htext⟩
    · exact after_pure.2 ⟨hs, h.placeholder id⟩

theorem after_renderRaw (h : Kept g o P) (id : TypeId) {s : Texts} (hs : Remembers P s) :
    After (g.renderRaw o id) s fun text t => Remembers P t ∧ P id text :=
  h.after_rawText [] id hs

theorem after_render (h : Kept g o P) (id : TypeId) {s : Texts} (hs : Remembers P s) :
    After (g.render o id) s fun text t => Remembers P t ∧ g.UsedAs P id text :=
  after_useText_of (fun _ _ hs => h.after_renderRaw id hs) hs

end Kept

end TypeGraph
end SchemaTypings
