import Mathlib.Data.Finset.Card
import Mathlib.Logic.Relation
import SchemaTypings.Proofs.RenderedTexts

/-! # What rendering remembers

A type with a name is written as its name, and every other type is written out where it is used.
Rendering remembers what it wrote for a type without a name, so that an answer might depend on what
was asked before.  Where every cycle passes a type with a name, no type without a name is met inside
itself; then all that is ever remembered is what a type is written as at first, and the text of a
type is made from the texts of the parts that it shows.
-/
namespace SchemaTypings

/-- In a relation without cycles everything that is below some bound has a rank. -/
theorem exists_rank {E : Nat → Nat → Prop} (size : Nat)
    (hacyclic : ∀ a, ¬ Relation.TransGen E a a) :
    ∃ rank : Nat → Nat, (∀ a, rank a ≤ size) ∧ ∀ a b, b < size → E a b → rank b < rank a := by
  classical
  refine ⟨fun a => ((Finset.range size).filter (Relation.TransGen E a)).card, fun a => ?_, ?_⟩
  · exact (Finset.card_filter_le ..).trans_eq (Finset.card_range size)
  · intro a b hb hab
    refine Finset.card_lt_card ⟨fun c hc => ?_, fun hsub => ?_⟩
    · rw [Finset.mem_filter] at hc ⊢
      exact ⟨hc.1, .head hab hc.2⟩
    · have hmem := hsub (Finset.mem_filter.2 ⟨Finset.mem_range.2 hb, .single hab⟩)
      exact hacyclic b (Finset.mem_filter.1 hmem).2

namespace TypeGraph

/-! ### Steps between types without names -/

/-- A type that is written out inside another: one that the other shows, without a name. -/
def Inlines (g : TypeGraph) (a b : TypeId) : Prop := b ∈ (g.kind a).shown ∧ g.name? b = none

/-- A step between types without names. -/
def UnnamedStep (g : TypeGraph) (a b : TypeId) : Prop :=
  g.name? a = none ∧ b ∈ g.children a ∧ g.name? b = none

/-- **Every cycle passes a type with a name.** -/
def CyclesNamed (g : TypeGraph) : Prop := ∀ id, ¬ Relation.TransGen g.UnnamedStep id id

theorem mem_children_of_mem_shown {g : TypeGraph} {a b : TypeId} (h : b ∈ (g.kind a).shown) :
    b ∈ g.children a := by
  unfold TypeKind.shown at h
  split at h
  · next members bases hkind =>
    rw [children, hkind]
    obtain ⟨m, hm, rfl⟩ := List.mem_map.1 h
    exact List.mem_append_left _ (List.mem_map.2 ⟨m, (List.mem_filter.1 hm).1, rfl⟩)
  · exact h

theorem Inlines.unnamedStep {g : TypeGraph} {a b : TypeId} (h : g.Inlines a b)
    (ha : g.name? a = none) : g.UnnamedStep a b := ⟨ha, mem_children_of_mem_shown h.1, h.2⟩

/-- Where parts without names come behind the unnamed types that use them, every cycle passes a
type with a name. -/
theorem cyclesNamed_of_lt {g : TypeGraph} (h : ∀ a b, g.UnnamedStep a b → a < b) :
    g.CyclesNamed := by
  have htrans : ∀ a b, Relation.TransGen g.UnnamedStep a b → a < b := by
    intro a b hab
    induction hab with
    | single hstep => exact h _ _ hstep
    | tail _ hstep ih => exact ih.trans (h _ _ hstep)
  exact fun id hcycle => Nat.lt_irrefl id (htrans id id hcycle)

/-! ### The text of a kind -/

/-- The text of a type where it is used. -/
def usedText (g : TypeGraph) (o : Options) (id : TypeId) : String := ((g.render o id).run {}).1

/-- The text of the structure of a type. -/
def ownText (g : TypeGraph) (o : Options) (id : TypeId) : String := ((g.renderRaw o id).run {}).1

/-- **The text of a kind is made from the texts of its parts**: where writing a part that the kind
shows keeps `I` and gives the text of the part, so does writing the kind. -/
theorem after_kindText {o : Options} {I : Texts → Prop} {raw : TypeId → Rendering String}
    {use : TypeId → String} {kind : TypeKind}
    (hraw : ∀ c ∈ kind.shown, ∀ s, I s → After (raw c) s fun text t => I t ∧ text = use c)
    {s : Texts} (hs : I s) :
    After (kindText o raw kind) s fun text t => I t ∧ text = textFrom o use kind :=
  (after_kindText_of hraw hs).mono fun _ _ ⟨ht, htext⟩ => ⟨ht, htext.eq_textFrom⟩

/-- The text of a kind depends on the texts of the parts that it shows. -/
theorem textFrom_congr {o : Options} {use use' : TypeId → String} {kind : TypeKind}
    (h : ∀ c ∈ kind.shown, use c = use' c) : textFrom o use kind = textFrom o use' kind := by
  have hraw : ∀ c ∈ kind.shown, ∀ s : Texts, True →
      After (pure (use c) : Rendering String) s fun text _ => True ∧ text = use' c :=
    fun c hc _ _ => after_pure.2 ⟨trivial, h c hc⟩
  exact (after_kindText hraw (s := {}) trivial).2

/-! ### What is remembered -/

variable {g : TypeGraph} {o : Options}

/-- What is remembered of a type is what it is written as at first. -/
def Recalls (g : TypeGraph) (o : Options) (texts : Texts) : Prop :=
  ∀ entry ∈ texts, entry.2 = g.ownText o entry.1

theorem recalls_nil (g : TypeGraph) (o : Options) : g.Recalls o [] :=
  fun _ hentry => absurd hentry List.not_mem_nil

theorem usedText_of_name {id : TypeId} {name : String} (h : g.name? id = some name) :
    g.usedText o id = name := by
  rw [usedText, render, useText, h]
  rfl

theorem usedText_of_none {id : TypeId} (h : g.name? id = none) :
    g.usedText o id = g.ownText o id := by
  rw [usedText, render, useText, h]
  rfl

/-- A type is used by its name, or by what is remembered or written out for it. -/
theorem after_useText {raw : TypeId → Rendering String} {id : TypeId}
    (hraw : g.name? id = none → ∀ s, g.Recalls o s →
      After (raw id) s fun text t => g.Recalls o t ∧ text = g.ownText o id)
    {s : Texts} (hs : g.Recalls o s) :
    After (useText g raw id) s fun text t => g.Recalls o t ∧ text = g.usedText o id := by
  have huse := after_useText_of (P := fun id text => text = g.ownText o id) hraw hs
  refine huse.mono fun text t ⟨ht, htext⟩ => ⟨ht, ?_⟩
  unfold UsedAs at htext
  split at htext
  · next name hname => rw [htext, usedText_of_name hname]
  · next hname => rw [htext, usedText_of_none hname]

/-- A type out of range is written as the placeholder. -/
theorem ownText_of_size_le {id : TypeId} (h : g.size ≤ id) : g.ownText o id = o.placeholder := by
  rw [ownText, renderRaw, rawText, dif_neg fun hid => Nat.not_lt.2 h hid.1]
  rfl

/-- A rank of the types without names, along which writing out goes down. -/
theorem CyclesNamed.exists_rank (hg : g.CyclesNamed) :
    ∃ rank : TypeId → Nat, (∀ a, rank a ≤ g.size) ∧
      ∀ a b, b < g.size → g.UnnamedStep a b → rank b < rank a :=
  SchemaTypings.exists_rank g.size hg

/-- One level of writing out: where the parts that are written out in a type give what they are
written as at first, the text of the type is made from those of its parts. -/
theorem after_rawText_of_parts {active : List TypeId} {id : TypeId} (hid : id < g.size)
    (hactive : id ∉ active)
    (hparts : ∀ c, g.Inlines id c → c < g.size → ∀ s, g.Recalls o s →
      After (g.rawText o (id :: active) c) s fun text t => g.Recalls o t ∧ text = g.ownText o c)
    {s : Texts} (hs : g.Recalls o s) :
    After (g.rawText o active id) s fun text t =>
      g.Recalls o t ∧ text = textFrom o (g.usedText o) (g.kind id) := by
  rw [rawText, dif_pos ⟨hid, hactive⟩]
  refine after_kindText (fun c hc s hs => after_useText (fun hname s hs => ?_) hs) hs
  by_cases hsize : c < g.size
  · exact hparts c ⟨hc, hname⟩ hsize s hs
  · rw [rawText, dif_neg fun h => hsize h.1, ownText_of_size_le (Nat.not_lt.1 hsize)]
    exact after_pure.2 ⟨hs, rfl⟩

/-- **A type without a name is never met inside itself**: around types without names of higher rank
it is written out as it is at first, whatever is remembered. -/
theorem after_rawText_unnamed {rank : TypeId → Nat}
    (hlt : ∀ a b, b < g.size → g.UnnamedStep a b → rank b < rank a) (o : Options) {id : TypeId}
    (hname : g.name? id = none) (hid : id < g.size) {active : List TypeId}
    (hactive : ∀ a ∈ active, g.name? a = none → rank id < rank a) {s : Texts}
    (hs : g.Recalls o s) :
    After (g.rawText o active id) s fun text t => g.Recalls o t ∧ text = g.ownText o id := by
  -- by the rank of the type: what is written out in it is of lower rank
  induction hn : rank id using Nat.strong_induction_on generalizing id active s with
  | _ n ih =>
    subst hn
    have hlevel : ∀ active, (∀ a ∈ active, g.name? a = none → rank id < rank a) →
        ∀ s, g.Recalls o s → After (g.rawText o active id) s fun text t =>
          g.Recalls o t ∧ text = textFrom o (g.usedText o) (g.kind id) := by
      intro active hactive s hs
      have hnot : id ∉ active := fun hmem => Nat.lt_irrefl _ (hactive id hmem hname)
      refine after_rawText_of_parts hid hnot (fun c hc hcsize s hs => ?_) hs
      have hrank := hlt id c hcsize (hc.unnamedStep hname)
      refine ih (rank c) hrank hc.2 hcsize (fun a ha haname => ?_) hs rfl
      rcases List.mem_cons.1 ha with rfl | ha
      · exact hrank
      · exact hrank.trans (hactive a ha haname)
    have hown : g.ownText o id = textFrom o (g.usedText o) (g.kind id) :=
      (hlevel [] (fun a ha => absurd ha List.not_mem_nil) [] (recalls_nil g o)).2
    rw [hown]
    exact hlevel active hactive s hs

theorem CyclesNamed.after_renderRaw_textFrom (hg : g.CyclesNamed) (o : Options) {id : TypeId}
    (hid : id < g.size) {s : Texts} (hs : g.Recalls o s) :
    After (g.renderRaw o id) s fun text t =>
      g.Recalls o t ∧ text = textFrom o (g.usedText o) (g.kind id) := by
  obtain ⟨rank, -, hlt⟩ := hg.exists_rank
  refine after_rawText_of_parts hid List.not_mem_nil (fun c hc hcsize s hs => ?_) hs
  refine after_rawText_unnamed hlt o hc.2 hcsize (fun a ha haname => ?_) hs
  rw [List.mem_singleton.1 ha] at haname ⊢
  exact hlt id c hcsize (hc.unnamedStep haname)

/-- **The text of a structure is made from the texts of its parts.** -/
theorem CyclesNamed.ownText_eq (hg : g.CyclesNamed) (o : Options) {id : TypeId} (hid : id < g.size) :
    g.ownText o id = textFrom o (g.usedText o) (g.kind id) :=
  (hg.after_renderRaw_textFrom o hid (recalls_nil g o)).2

/-- **The structure of a type is written as it is at first**, whatever is remembered. -/
theorem CyclesNamed.after_renderRaw (hg : g.CyclesNamed) (o : Options) (id : TypeId) {s : Texts}
    (hs : g.Recalls o s) :
    After (g.renderRaw o id) s fun text t => g.Recalls o t ∧ text = g.ownText o id := by
  by_cases hid : id < g.size
  · rw [hg.ownText_eq o hid]
    exact hg.after_renderRaw_textFrom o hid hs
  · rw [renderRaw, rawText, dif_neg fun h => hid h.1, ownText_of_size_le (Nat.not_lt.1 hid)]
    exact after_pure.2 ⟨hs, rfl⟩

theorem CyclesNamed.after_render (hg : g.CyclesNamed) (o : Options) (id : TypeId) {s : Texts}
    (hs : g.Recalls o s) :
    After (g.render o id) s fun text t => g.Recalls o t ∧ text = g.usedText o id :=
  after_useText (fun _ _ hs => hg.after_renderRaw o id hs) hs

end TypeGraph
end SchemaTypings
