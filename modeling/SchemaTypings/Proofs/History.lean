import SchemaTypings.Declaration
import SchemaTypings.Proofs.Memory

/-! # Answers do not depend on what was asked before

One renderer answers many questions, and remembers texts from one to the next.  Where every cycle
passes a type with a name, each answer is the one that the question gets alone.  It is also the one
text that the rules of writing give: `Writes` has no rule for a type that is met inside itself, so
that nothing ever stands for such a type.
-/
namespace SchemaTypings
namespace TypeGraph

/-! ### The rules of writing -/

mutual

/-- **The text of a structure** is that of its kind with the texts of the parts that it shows. -/
inductive Spells (g : TypeGraph) (o : Options) : TypeId → String → Prop where
  | parts {id : TypeId} (use : TypeId → String) (hid : id < g.size)
    (h : ∀ c ∈ (g.kind id).shown, Writes g o c (use c)) :
    Spells g o id (textFrom o use (g.kind id))

/-- **The text of a type where it is used** is its name, or else that of its structure. -/
inductive Writes (g : TypeGraph) (o : Options) : TypeId → String → Prop where
  | name {id : TypeId} {name : String} (h : g.name? id = some name) : Writes g o id name
  | own {id : TypeId} {text : String} (hname : g.name? id = none) (h : Spells g o id text) :
    Writes g o id text

end

variable {g : TypeGraph} {o : Options}

theorem writes_iff_of_name {id : TypeId} {name : String} (hname : g.name? id = some name)
    (text : String) : Writes g o id text ↔ text = g.usedText o id := by
  rw [usedText_of_name hname]
  constructor
  · intro h
    cases h with
    | name h => exact Option.some.inj (h.symm.trans hname)
    | own hnone h => exact absurd (hnone.symm.trans hname) nofun
  · rintro rfl
    exact .name hname

theorem writes_iff_of_none {id : TypeId} (hname : g.name? id = none)
    (h : ∀ text, Spells g o id text ↔ text = g.ownText o id) (text : String) :
    Writes g o id text ↔ text = g.usedText o id := by
  rw [usedText_of_none hname, ← h]
  constructor
  · intro hwrites
    cases hwrites with
    | name hsome => exact absurd (hname.symm.trans hsome) nofun
    | own _ hspells => exact hspells
  · exact .own hname

/-- One level of the rules: the structure of a type has one text where the parts that are written
out in it have. -/
theorem CyclesNamed.spells_iff_of_parts (hg : g.CyclesNamed) {id : TypeId} (hid : id < g.size)
    (hparts : ∀ c, g.Inlines id c → ∀ text, Spells g o c text ↔ text = g.ownText o c)
    (text : String) : Spells g o id text ↔ text = g.ownText o id := by
  have huse : ∀ c ∈ (g.kind id).shown, ∀ text, Writes g o c text ↔ text = g.usedText o c := by
    intro c hc
    cases hname : g.name? c with
    | some name => exact writes_iff_of_name hname
    | none => exact writes_iff_of_none hname (hparts c ⟨hc, hname⟩)
  rw [hg.ownText_eq o hid]
  constructor
  · intro h
    cases h with
    | parts use _ h => exact textFrom_congr fun c hc => (huse c hc _).1 (h c hc)
  · rintro rfl
    exact .parts (g.usedText o) hid fun c hc => (huse c hc _).2 rfl

/-- **The rules give one text for the structure of every type**: what it is written as at first. -/
theorem CyclesNamed.spells_iff (hg : g.CyclesNamed)
    (hrange : ∀ id, ∀ part ∈ g.children id, part < g.size) (o : Options) {id : TypeId}
    (hid : id < g.size) (text : String) : Spells g o id text ↔ text = g.ownText o id := by
  obtain ⟨rank, -, hlt⟩ := hg.exists_rank
  have hsize : ∀ {a c}, g.Inlines a c → c < g.size := fun hc =>
    hrange _ _ (mem_children_of_mem_shown hc.1)
  -- below the first level all types are without names, and ranks go down
  have hunnamed : ∀ n id, rank id < n → g.name? id = none → id < g.size →
      ∀ text, Spells g o id text ↔ text = g.ownText o id := by
    intro n
    induction n with
    | zero => exact fun id hn => absurd hn (Nat.not_lt_zero _)
    | succ n ih =>
      intro id hn hname hid
      refine hg.spells_iff_of_parts hid fun c hc => ?_
      have hrank := hlt id c (hsize hc) (hc.unnamedStep hname)
      exact ih c (by omega) hc.2 (hsize hc)
  exact hg.spells_iff_of_parts hid
    (fun c hc => hunnamed _ c (Nat.lt_succ_self _) hc.2 (hsize hc)) text

theorem CyclesNamed.writes_iff (hg : g.CyclesNamed)
    (hrange : ∀ id, ∀ part ∈ g.children id, part < g.size) (o : Options) {id : TypeId}
    (hid : id < g.size) (text : String) : Writes g o id text ↔ text = g.usedText o id := by
  cases hname : g.name? id with
  | some name => exact writes_iff_of_name hname text
  | none => exact writes_iff_of_none hname (hg.spells_iff hrange o hid) text

/-! ### Steady renderings -/

/-- **A rendering that nothing remembered can change**: it has one value, and what it remembers is
what types are written as at first. -/
def Steady {α : Type} (g : TypeGraph) (o : Options) (x : Rendering α) : Prop :=
  ∃ a, ∀ s, g.Recalls o s → After x s fun b t => g.Recalls o t ∧ b = a

namespace Steady

variable {α β : Type}

theorem pure (a : α) : g.Steady o (Pure.pure a : Rendering α) :=
  ⟨a, fun _ hs => after_pure.2 ⟨hs, rfl⟩⟩

theorem bind {x : Rendering α} {f : α → Rendering β} (hx : g.Steady o x)
    (hf : ∀ a, g.Steady o (f a)) : g.Steady o (x >>= f) := by
  obtain ⟨a, hx⟩ := hx
  obtain ⟨b, hf⟩ := hf a
  refine ⟨b, fun s hs => after_bind.2 ((hx s hs).mono fun a' t ⟨ht, ha⟩ => ?_)⟩
  rw [ha]
  exact hf t ht

theorem map {x : Rendering α} (f : α → β) (hx : g.Steady o x) : g.Steady o (f <$> x) :=
  hx.bind fun a => .pure (f a)

theorem mapM {f : α → Rendering β} {as : List α} (hf : ∀ a ∈ as, g.Steady o (f a)) :
    g.Steady o (as.mapM f) := by
  induction as with
  | nil => exact .pure []
  | cons a as ih =>
    rw [List.mapM_cons]
    refine (hf a (List.mem_cons_self ..)).bind fun b => ?_
    exact (ih fun a' ha' => hf a' (List.mem_cons_of_mem _ ha')).bind fun bs => .pure (b :: bs)

/-- A steady rendering answers as it does at first, and so does what comes after it. -/
theorem run_eq {x : Rendering α} (hx : g.Steady o x) {s : Texts} (hs : g.Recalls o s) :
    (x.run s).1 = (x.run {}).1 ∧ g.Recalls o (x.run s).2 := by
  obtain ⟨a, hx⟩ := hx
  have hnow := hx s hs
  have hfirst := hx [] (recalls_nil g o)
  exact ⟨hnow.2.trans hfirst.2.symm, hnow.1⟩

end Steady

theorem CyclesNamed.steady_renderRaw (hg : g.CyclesNamed) (o : Options) (id : TypeId) :
    g.Steady o (g.renderRaw o id) := ⟨g.ownText o id, fun _ hs => hg.after_renderRaw o id hs⟩

theorem CyclesNamed.steady_render (hg : g.CyclesNamed) (o : Options) (id : TypeId) :
    g.Steady o (g.render o id) := ⟨g.usedText o id, fun _ hs => hg.after_render o id hs⟩

theorem CyclesNamed.steady_memberSignature (hg : g.CyclesNamed) (o : Options) (m : Member) :
    g.Steady o (g.memberSignature o m) := (hg.steady_render o m.type).map _

end TypeGraph

/-! ### Declarations -/

namespace Declaration
open TypeGraph

variable {g : TypeGraph}

theorem steady_aliases (hg : g.CyclesNamed) (o : Options) (rootName : String) :
    g.Steady o (aliases g o rootName) := by
  refine (Steady.mapM fun id _ => ?_).bind fun blocks => .pure _
  unfold alias?
  split
  · exact .pure none
  · split
    · exact .pure none
    · exact (hg.steady_renderRaw o id).bind fun text => .pure _

theorem steady_classBlock (hg : g.CyclesNamed) (o : Options) (id : TypeId) (name : String)
    (members : List Member) (bases : List TypeId) :
    g.Steady o (classBlock g o id name members bases) := by
  refine (Steady.mapM fun base _ => hg.steady_render o base).bind fun bases => ?_
  refine (Steady.mapM fun m _ => ?_).bind fun lines => .pure _
  exact (hg.steady_memberSignature o m).bind fun signature => .pure _

theorem steady_classesFrom (hg : g.CyclesNamed) (o : Options) (rootName : String)
    (emitted : List String) (ids : List TypeId) :
    g.Steady o (classesFrom g o rootName emitted ids) := by
  induction ids generalizing emitted with
  | nil => exact .pure _
  | cons id rest ih =>
    unfold classesFrom
    split
    · next name members bases hname hkind =>
      split
      · exact ih emitted
      · refine (steady_classBlock hg o id name members bases).bind fun block => ?_
        exact (ih (name :: emitted)).bind fun later => .pure _
    · exact ih emitted

end Declaration

/-! ### Sessions -/

namespace TypeGraph

/-- A question to a renderer. -/
inductive Call where
  /-- The text of a type where it is used. -/
  | used (id : TypeId)
  /-- The text of the structure of a type. -/
  | own (id : TypeId)
  | signature (m : Member)

namespace Call

/-- Answers a question. -/
def answer (g : TypeGraph) (o : Options) : Call → Rendering String
  | used id => g.render o id
  | own id => g.renderRaw o id
  | signature m => g.memberSignature o m

/-- The answer that a question gets alone. -/
def alone (g : TypeGraph) (o : Options) (call : Call) : String := ((call.answer g o).run {}).1

/-- The type that a question is about. -/
def type : Call → TypeId
  | used id => id
  | own id => id
  | signature m => m.type

/-- **What the rules of writing ask of an answer.** -/
def Wants (g : TypeGraph) (o : Options) : Call → String → Prop
  | used id, text => Writes g o id text
  | own id, text => Spells g o id text
  | signature m, text => ∃ type, Writes g o m.type type ∧ text = signatureText o m type

end Call

/-- **A session**: questions to one renderer, one after the other. -/
def session (g : TypeGraph) (o : Options) (calls : List Call) : Rendering (List String) :=
  calls.mapM (Call.answer g o)

variable {g : TypeGraph}

theorem CyclesNamed.steady_answer (hg : g.CyclesNamed) (o : Options) (call : Call) :
    g.Steady o (call.answer g o) := by
  cases call with
  | used id => exact hg.steady_render o id
  | own id => exact hg.steady_renderRaw o id
  | signature m => exact hg.steady_memberSignature o m

theorem CyclesNamed.wants_iff (hg : g.CyclesNamed)
    (hrange : ∀ id, ∀ part ∈ g.children id, part < g.size) (o : Options) {call : Call}
    (hcall : call.type < g.size) (text : String) :
    call.Wants g o text ↔ text = call.alone g o := by
  cases call with
  | used id => exact hg.writes_iff hrange o hcall text
  | own id => exact hg.spells_iff hrange o hcall text
  | signature m =>
    have hwrites := hg.writes_iff hrange o hcall
    constructor
    · rintro ⟨type, htype, rfl⟩
      rw [(hwrites type).1 htype]
      rfl
    · rintro rfl
      exact ⟨g.usedText o m.type, (hwrites _).2 rfl, rfl⟩

/-- The answers of a session are those that its questions get alone. -/
theorem CyclesNamed.session_run (hg : g.CyclesNamed) (o : Options) (calls : List Call) :
    After (g.session o calls) {} fun answers texts =>
      g.Recalls o texts ∧ answers = calls.map (Call.alone g o) := by
  refine after_mapM_map (fun call _ s hs => ?_) (recalls_nil g o)
  obtain ⟨heq, ht⟩ := (hg.steady_answer o call).run_eq hs
  exact ⟨ht, heq⟩

/-- **Rendering does not depend on what was asked before.**  Where every cycle passes a type with a
name, a session answers each question as it is answered alone.  If no part is out of range, this
answer is the one text that the rules of writing give, in which nothing stands for a type that is
met inside itself.  The declarations that are made after a session are those made without it. -/
theorem CyclesNamed.session_spec (hg : g.CyclesNamed) (o : Options) (calls : List Call) :
    ((g.session o calls).run {}).1 = calls.map (Call.alone g o) ∧
      ((∀ id, ∀ part ∈ g.children id, part < g.size) → ∀ call ∈ calls, call.type < g.size →
        ∀ text, call.Wants g o text ↔ text = call.alone g o) ∧
      ∀ rootName emitted,
        ((Declaration.aliases g o rootName).run ((g.session o calls).run {}).2).1 =
            ((Declaration.aliases g o rootName).run {}).1 ∧
          ((Declaration.classes g o rootName emitted).run ((g.session o calls).run {}).2).1 =
            ((Declaration.classes g o rootName emitted).run {}).1 := by
  obtain ⟨hrecalls, hanswers⟩ := hg.session_run o calls
  refine ⟨hanswers, fun hrange call _ hcall => hg.wants_iff hrange o hcall, ?_⟩
  intro rootName emitted
  exact ⟨((Declaration.steady_aliases hg o rootName).run_eq hrecalls).1,
    ((Declaration.steady_classesFrom hg o rootName emitted g.reachable).run_eq hrecalls).1⟩

/-- A tree: a class with an array of trees or `null`, and with a parent of that union. -/
def tree : TypeGraph where
  nodes := #[
    { kind := .record [{ key := "label", type := 1, isRequired := true },
        { key := "children", type := 2 }, { key := "parent", type := 3 }] [], name := some "Tree" },
    { kind := .string },
    { kind := .array 3 },
    { kind := .union [0, 4] },
    { kind := .null }]
  root := 0

/-- A session that asks for the parts of a tree before the tree, and for some of them again. -/
def treeCalls : List Call :=
  [.used 2, .own 0, .signature { key := "parent", type := 3 }, .used 0, .own 2]

theorem cyclesNamed_tree : tree.CyclesNamed := by
  have hlooks : ∀ a < tree.size, tree.name? a = none →
      ∀ b ∈ tree.children a, tree.name? b = none → a < b := by decide +kernel
  exact cyclesNamed_of_lt fun a b hab =>
    hlooks a (lt_size_of_mem_children hab.2.1) hab.1 b hab.2.1 hab.2.2

/-- The texts of a tree, in whose parts the tree is written as its name. -/
theorem session_spec_tree : tree.CyclesNamed ∧
    ((tree.session {} treeCalls).run {}).1 = ["(Tree | null)[]",
      "\x7b label: string; children?: (Tree | null)[]; parent?: (Tree | null) \x7d",
      "parent?: (Tree | null)", "Tree", "(Tree | null)[]"] ∧
    (∀ call ∈ treeCalls, ∀ text, call.Wants tree {} text ↔ text = call.alone tree {}) ∧
    ((Declaration.classes tree {} "Tree" []).run ((tree.session {} treeCalls).run {}).2).1.1 =
      ["export class Tree \x7b\n  label: string;\n  children?: (Tree | null)[];\n" ++
        "  parent?: (Tree | null);\n\x7d"] := by
  obtain ⟨hanswers, hwants, hdeclared⟩ := cyclesNamed_tree.session_spec {} treeCalls
  have hrange : ∀ id < tree.size, ∀ part ∈ tree.children id, part < tree.size := by decide +kernel
  have hcalls : ∀ call ∈ treeCalls, call.type < tree.size := by decide +kernel
  refine ⟨cyclesNamed_tree, hanswers.trans (by decide +kernel), fun call hcall => ?_, ?_⟩
  · exact hwants (fun id part hpart => hrange id (lt_size_of_mem_children hpart) part hpart)
      call hcall (hcalls call hcall)
  · rw [(hdeclared "Tree" []).2]
    decide +kernel

end TypeGraph
end SchemaTypings
