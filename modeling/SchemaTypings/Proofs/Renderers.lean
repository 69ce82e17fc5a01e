import Mathlib.Data.Finset.Card
import Mathlib.Data.Finset.Range
import SchemaTypings.Proofs.History

/-! # Types underway

Rendering is handed the list of the types that are written out around a type.  A renderer keeps them
as a set, beside the texts that it remembers: a type is put into the set before its kind is written,
and is taken out of it afterwards.  Such a renderer may look for a type that the graph does not
have, and it might call itself without end.  Where all parts are in range it does neither: every
call ends, gives the text that rendering gives, and leaves the set as it was.
-/
namespace SchemaTypings

/-! ### The text of a kind from a list of texts -/

/-- **The text of a kind**, put together from the texts of the parts that it shows, in order. -/
def TypeKind.assembled (o : Options) : TypeKind → List String → String
  | .array _, text :: _ => TypeGraph.arrayText text
  | .tuple elements min max _, texts =>
    TypeGraph.boundedText o.placeholder (texts.take elements.length) min max texts[elements.length]?
  | .union _, texts => TypeGraph.unionText texts
  | .intersection _, texts => TypeGraph.intersectionText texts
  | .record members _, texts =>
    TypeGraph.recordText
      (List.zipWith (TypeGraph.signatureText o) (members.filter Member.isVisible) texts)
  | kind, _ => TypeGraph.textFrom o (fun _ => "") kind

namespace TypeGraph

/-- Values made from a list and from what is rendered for its elements. -/
theorem mapM_zipWith {α β : Type} (f : α → String → β) (use : α → Rendering String) (as : List α) :
    (as.mapM fun a => f a <$> use a) = List.zipWith f as <$> as.mapM use := by
  induction as with
  | nil => rfl
  | cons a as ih =>
    rw [List.mapM_cons, List.mapM_cons, ih]
    rfl

/-- Behind the texts of the elements comes that of the spread, if there is one. -/
theorem assembled_tuple (o : Options) {elements : List TypeId} (min : Nat) (max : Option Nat)
    (spread : Option TypeId) {texts : List String} (h : texts.length = elements.length)
    (further : Option String) :
    TypeKind.assembled o (.tuple elements min max spread) (texts ++ further.toList) =
      boundedText o.placeholder texts min max further := by
  rw [TypeKind.assembled, ← h, List.take_left, List.getElem?_append_right (Nat.le_refl _),
    Nat.sub_self]
  cases further <;> rfl

/-- Rendering a kind renders the parts that it shows, one after the other, and puts their texts
together. -/
theorem kindText_eq (o : Options) (use : TypeId → Rendering String) (kind : TypeKind) :
    kindText o use kind = kind.assembled o <$> kind.shown.mapM use := by
  cases kind with
  | array element =>
    have hparts : [element].mapM use = (fun text => [text]) <$> use element := by
      rw [List.mapM_cons, List.mapM_nil]
      rfl
    change _ = TypeKind.assembled o (.array element) <$> [element].mapM use
    rw [hparts]
    rfl
  | tuple elements min max spread =>
    have hparts : (elements ++ spread.toList).mapM use = do
        let texts ← elements.mapM use
        let further ← spread.mapM use
        return texts ++ further.toList := by
      rw [List.mapM_append]
      cases spread with
      | none => rfl
      | some id =>
        rw [Option.toList_some, List.mapM_cons, List.mapM_nil]
        rfl
    change _ = TypeKind.assembled o (.tuple elements min max spread) <$>
      (elements ++ spread.toList).mapM use
    rw [hparts]
    refine StateT.ext fun s => congrArg (·, _) ?_
    exact (assembled_tuple o min max spread (length_run_mapM use elements s) _).symm
  | union members => rfl
  | intersection members => rfl
  | record members bases =>
    have hparts : ((members.filter Member.isVisible).map Member.type).mapM use =
        (members.filter Member.isVisible).mapM fun m => use m.type := List.mapM_map
    rw [kindText, mapM_zipWith, TypeKind.shown, hparts]
    rfl
  | any | unknown | null | boolean | number | string | literal _ | object | enumeration _
  | reference _ | custom _ => rfl

/-! ### Renderers -/

/-- **A renderer**: the texts that it remembers, and the types that it is writing out. -/
structure Renderer where
  texts : Texts := []
  underway : Finset TypeId := ∅
  deriving DecidableEq

/-- What a renderer does.  It comes to nothing where a type is missing that has to be there, or
where calls are nested too deep. -/
abbrev Work := StateT Renderer Option

namespace Renderer

/-- Looks at a type, which has to be there. -/
def look (g : TypeGraph) (id : TypeId) : Work TypeNode := StateT.lift g.nodes[id]?

/-- Does something while a type is underway. -/
def during {α : Type} (id : TypeId) (x : Work α) : Work α := do
  modify fun r => { r with underway := insert id r.underway }
  let a ← x
  modify fun r => { r with underway := r.underway.erase id }
  return a

/-- Writes the kind of a type, with `part` for the parts that it shows. -/
def writeKind (g : TypeGraph) (o : Options) (part : TypeId → Work String) (id : TypeId) :
    Work String := do
  let node ← look g id
  node.kind.assembled o <$> node.kind.shown.mapM part

/-- Writes out the structure of a type.  One that is underway is not begun again. -/
def writeOut (g : TypeGraph) (o : Options) (part : TypeId → Work String) (id : TypeId) :
    Work String := do
  if id ∈ (← get).underway then return o.placeholder
  else during id (writeKind g o part id)

/-- Writes a type where it is used: its name, or else the text of its structure, which is
remembered. -/
def write (g : TypeGraph) (own : TypeId → Work String) (id : TypeId) : Work String := do
  let node ← look g id
  match node.name with
  | some name => return name
  | none => do
    match (← get).texts.lookup id with
    | some text => return text
    | none =>
      let text ← own id
      modify fun r => { r with texts := (id, text) :: r.texts }
      return text

/-- **Writes out a structure with calls nested to a depth.** -/
def writeOutWithin (g : TypeGraph) (o : Options) : Nat → TypeId → Work String
  | 0, _ => failure
  | depth + 1, id => writeOut g o (write g (writeOutWithin g o depth)) id

/-- **Answers a question with calls nested to a depth.** -/
def answerWithin (g : TypeGraph) (o : Options) (depth : Nat) : Call → Work String
  | .used id => write g (writeOutWithin g o depth) id
  | .own id => writeOutWithin g o depth id
  | .signature m => signatureText o m <$> write g (writeOutWithin g o depth) m.type

end Renderer

/-- The answer to a question that is asked while some types are rendered. -/
def Call.around (g : TypeGraph) (o : Options) (active : List TypeId) : Call → Rendering String
  | used id => useText g (rawText g o active) id
  | own id => rawText g o active id
  | signature m => signatureText o m <$> useText g (rawText g o active) m.type

theorem Call.around_nil (g : TypeGraph) (o : Options) (call : Call) :
    call.around g o [] = call.answer g o := by
  cases call <;> rfl

/-! ### Work that ends -/

/-- **Work that ends as a rendering does**, with the types underway that were so before. -/
def Performs {α : Type} (underway : Finset TypeId) (x : Work α) (y : Rendering α) : Prop :=
  ∀ texts, x.run ⟨texts, underway⟩ = some ((y.run texts).1, ⟨(y.run texts).2, underway⟩)

namespace Performs

variable {α β : Type} {underway : Finset TypeId} {x : Work α} {y : Rendering α}

theorem pure (a : α) : Performs underway (Pure.pure a) (Pure.pure a) := fun _ => rfl

theorem bind {f : α → Work β} {f' : α → Rendering β} (hx : Performs underway x y)
    (hf : ∀ a, Performs underway (f a) (f' a)) : Performs underway (x >>= f) (y >>= f') := by
  intro texts
  rw [StateT.run_bind, hx]
  exact hf _ _

theorem map (f : α → β) (hx : Performs underway x y) :
    Performs underway (f <$> x) (f <$> y) := by
  intro texts
  rw [StateT.run_map, hx]
  rfl

theorem mapM {f : α → Work β} {f' : α → Rendering β} {as : List α}
    (hf : ∀ a ∈ as, Performs underway (f a) (f' a)) :
    Performs underway (as.mapM f) (as.mapM f') := by
  induction as with
  | nil => exact .pure []
  | cons a as ih =>
    rw [List.mapM_cons, List.mapM_cons]
    refine (hf a List.mem_cons_self).bind fun b => ?_
    exact (ih fun a' ha' => hf a' (List.mem_cons_of_mem _ ha')).bind fun bs => .pure (b :: bs)

theorem get {f : Renderer → Work β} {f' : Texts → Rendering β}
    (hf : ∀ texts, Performs underway (f ⟨texts, underway⟩) (f' texts)) :
    Performs underway (MonadState.get >>= f) (MonadState.get >>= f') :=
  fun texts => hf texts texts

/-- A renderer may read its state where rendering reads nothing. -/
theorem consult {f : Renderer → Work α}
    (hf : ∀ texts, Performs underway (f ⟨texts, underway⟩) y) :
    Performs underway (MonadState.get >>= f) y :=
  fun texts => hf texts texts

theorem remember (entry : TypeId × String) :
    Performs underway (modify fun r => { r with texts := entry :: r.texts })
      (modify fun texts => entry :: texts) := fun _ => rfl

/-- A type in range is there to be looked at. -/
theorem look {g : TypeGraph} {id : TypeId} (hid : id < g.size) {f : TypeNode → Work α}
    (hf : Performs underway (f (g.node id)) y) :
    Performs underway (Renderer.look g id >>= f) y := by
  have hnode : g.nodes[id]? = some (g.node id) := by
    rw [node, Array.getElem?_eq_getElem hid]
    rfl
  intro texts
  rw [Renderer.look, hnode]
  exact hf texts

/-- **A type is underway while something is done, and no longer afterwards.** -/
theorem during {id : TypeId} (h : id ∉ underway) (hx : Performs (insert id underway) x y) :
    Performs underway (Renderer.during id x) y := by
  intro texts
  have hrun : (Renderer.during id x).run ⟨texts, underway⟩ =
      (x.run ⟨texts, insert id underway⟩).bind fun p =>
        some (p.1, ⟨p.2.texts, p.2.underway.erase id⟩) := rfl
  rw [hrun, hx, Option.bind_some, Finset.erase_insert h]

end Performs

/-! ### What a call does -/

section Calls

variable {g : TypeGraph} {o : Options} {id : TypeId} {underway : Finset TypeId}

/-- A kind is written as rendering writes it, where its parts are. -/
theorem performs_writeKind {part : TypeId → Work String} {use : TypeId → Rendering String}
    (hid : id < g.size) (hparts : ∀ c ∈ (g.kind id).shown, Performs underway (part c) (use c)) :
    Performs underway (Renderer.writeKind g o part id) (kindText o use (g.kind id)) := by
  rw [kindText_eq]
  exact .look hid (.map _ (.mapM hparts))

/-- A type that is underway is not begun again. -/
theorem performs_writeOut_of_mem {part : TypeId → Work String} (h : id ∈ underway) :
    Performs underway (Renderer.writeOut g o part id) (pure o.placeholder) := by
  refine .consult fun texts => ?_
  rw [if_pos h]
  exact .pure _

/-- Any other type is underway while its kind is written. -/
theorem performs_writeOut {part : TypeId → Work String} {use : TypeId → Rendering String}
    (hid : id < g.size) (h : id ∉ underway)
    (hparts : ∀ c ∈ (g.kind id).shown, Performs (insert id underway) (part c) (use c)) :
    Performs underway (Renderer.writeOut g o part id) (kindText o use (g.kind id)) := by
  refine .consult fun texts => ?_
  rw [if_neg h]
  exact .during h (performs_writeKind hid hparts)

/-- A type is written as its name, as the text that is remembered, or as its structure is, and that
is remembered then. -/
theorem performs_write {own : TypeId → Work String} {raw : TypeId → Rendering String}
    (hid : id < g.size) (hown : Performs underway (own id) (raw id)) :
    Performs underway (Renderer.write g own id) (useText g raw id) := by
  refine .look hid ?_
  unfold useText
  change Performs underway (match g.name? id with | some _ => _ | none => _) _
  cases g.name? id with
  | some name => exact .pure name
  | none =>
    refine .get fun texts => ?_
    cases texts.lookup id with
    | some text => exact .pure text
    | none => exact hown.bind fun text => (Performs.remember (id, text)).bind fun _ => .pure text

/-- **Structures are written out**: as many calls are nested at most as there are types that are not
underway, and one more. -/
theorem performs_writeOutWithin (hparts : ∀ id, ∀ part ∈ g.children id, part < g.size)
    (o : Options) {depth : Nat} {active : List TypeId} (hdepth : (g.idle active).length < depth)
    (hid : id < g.size) :
    Performs active.toFinset (Renderer.writeOutWithin g o depth id) (g.rawText o active id) := by
  induction depth generalizing active id with
  | zero => exact absurd hdepth (Nat.not_lt_zero _)
  | succ depth ih =>
    rw [Renderer.writeOutWithin]
    by_cases hactive : id ∈ active
    · rw [rawText, dif_neg fun h => h.2 hactive]
      exact performs_writeOut_of_mem (List.mem_toFinset.2 hactive)
    · rw [rawText, dif_pos ⟨hid, hactive⟩]
      refine performs_writeOut hid (fun h => hactive (List.mem_toFinset.1 h)) fun c hc => ?_
      have hlt : c < g.size := hparts id c (mem_children_of_mem_shown hc)
      -- the type itself is no longer idle
      have hidle := length_idle_cons_lt hid hactive
      rw [← List.toFinset_cons]
      exact performs_write hlt (ih (by omega) hlt)

/-- **Questions are answered**, as rendering answers them around the types underway. -/
theorem performs_answerWithin (hparts : ∀ id, ∀ part ∈ g.children id, part < g.size) (o : Options)
    {depth : Nat} {active : List TypeId} (hdepth : (g.idle active).length < depth) {call : Call}
    (hcall : call.type < g.size) :
    Performs active.toFinset (Renderer.answerWithin g o depth call) (call.around g o active) := by
  have hown : ∀ {id}, id < g.size →
      Performs active.toFinset (Renderer.writeOutWithin g o depth id) (g.rawText o active id) :=
    fun hid => performs_writeOutWithin hparts o hdepth hid
  cases call with
  | used id => exact performs_write hcall (hown hcall)
  | own id => exact hown hcall
  | signature m => exact .map _ (performs_write hcall (hown hcall))

/-- **Sessions are held** with nothing underway between the questions. -/
theorem performs_session (hparts : ∀ id, ∀ part ∈ g.children id, part < g.size) (o : Options)
    {depth : Nat} (hdepth : g.size < depth) {calls : List Call}
    (hcalls : ∀ call ∈ calls, call.type < g.size) :
    Performs ∅ (calls.mapM (Renderer.answerWithin g o depth)) (g.session o calls) := by
  have hidle : (g.idle []).length < depth := by simpa [idle] using hdepth
  refine Performs.mapM fun call hcall => ?_
  rw [← call.around_nil]
  exact performs_answerWithin hparts o hidle (hcalls call hcall)

end Calls

variable {g : TypeGraph}

/-- The idle types are those of the graph that are not underway. -/
theorem length_idle_eq_card (g : TypeGraph) (active : List TypeId) :
    (g.idle active).length = (Finset.range g.size \ active.toFinset).card := by
  have hidle : Finset.range g.size \ active.toFinset = (g.idle active).toFinset := by
    ext id
    simp [idle]
  have hnodup : (g.idle active).Nodup := List.nodup_range.filter _
  rw [hidle, List.toFinset_card_of_nodup hnodup]

/-- A renderer in any state answers as rendering does around the types underway, in whatever order
these are listed. -/
theorem run_answerWithin (hparts : ∀ id, ∀ part ∈ g.children id, part < g.size) (o : Options)
    {r : Renderer} {active : List TypeId} (hactive : active.toFinset = r.underway) {depth : Nat}
    (hdepth : (Finset.range g.size \ r.underway).card < depth) {call : Call}
    (hcall : call.type < g.size) :
    (Renderer.answerWithin g o depth call).run r =
      some (((call.around g o active).run r.texts).1,
        { r with texts := ((call.around g o active).run r.texts).2 }) := by
  rw [← hactive, ← length_idle_eq_card] at hdepth
  have hrun := performs_answerWithin hparts o hdepth hcall r.texts
  rwa [hactive] at hrun

/-- **Rendering ends and leaves nothing open.**  Where all parts are in range, a renderer in any
state answers every question about a type in range, without nesting more calls than there are types
that are not underway, and one more; the same types are underway afterwards, and the answer is that
of rendering around them.  So between the questions of a session nothing is underway, and each is
answered as if no type were being written. -/
theorem renderer_ends (hparts : ∀ id, ∀ part ∈ g.children id, part < g.size) (o : Options) :
    (∀ (r : Renderer) (call : Call), call.type < g.size → ∃ text texts,
      (∀ depth, (Finset.range g.size \ r.underway).card < depth →
        (Renderer.answerWithin g o depth call).run r = some (text, { r with texts := texts })) ∧
      ∀ active : List TypeId, active.toFinset = r.underway →
        text = ((call.around g o active).run r.texts).1 ∧
          texts = ((call.around g o active).run r.texts).2) ∧
    ∀ calls : List Call, (∀ call ∈ calls, call.type < g.size) → ∀ depth, g.size < depth →
      (calls.mapM (Renderer.answerWithin g o depth)).run {} =
        some (((g.session o calls).run {}).1, { texts := ((g.session o calls).run {}).2 }) := by
  refine ⟨fun r call hcall => ?_, fun calls hcalls depth hdepth => ?_⟩
  · have hlist : r.underway.toList.toFinset = r.underway := r.underway.toList_toFinset
    refine ⟨_, _, fun depth hdepth => run_answerWithin hparts o hlist hdepth hcall, ?_⟩
    intro active hactive
    -- around either list, rendering answers as the renderer does
    have hsame := (run_answerWithin hparts o hlist (Nat.lt_succ_self _) hcall).symm.trans
      (run_answerWithin hparts o hactive (Nat.lt_succ_self _) hcall)
    simpa only [Option.some.injEq, Prod.mk.injEq, Renderer.mk.injEq, and_true] using hsame
  · exact performs_session hparts o hdepth hcalls []

/-- Types without names that are met inside themselves, and a class that uses them and itself. -/
def knot : TypeGraph where
  nodes := #[
    { kind := .array 1 },
    { kind := .union [0, 2, 1] },
    { kind := .string },
    { kind := .record [{ key := "all", type := 1 }, { key := "next", type := 3 }] [],
      name := some "Knot" }]
  root := 3

/-- Questions about a knot, of which the first one enters it at the array. -/
def knotCalls : List Call := [.used 0, .own 1, .own 3, .signature { key := "array", type := 0 }]

/-- A knot is cut where a type is met inside itself: the union while the array is underway, and both
in a session, which leaves nothing underway. -/
theorem renderer_ends_knot : (∀ id, ∀ part ∈ knot.children id, part < knot.size) ∧
    (Renderer.answerWithin knot {} 4 (.used 1)).run { underway := {0} } =
      some ("(unknown | string | unknown)",
        { texts := [(1, "(unknown | string | unknown)"), (1, "unknown"), (2, "string"),
            (0, "unknown")], underway := {0} }) ∧
    (knotCalls.mapM (Renderer.answerWithin knot {} 5)).run {} =
      some (["(unknown | string | unknown)[]",
          "((unknown | string | unknown)[] | string | (unknown | string | unknown))",
          "\x7b all?: (unknown | string | unknown); next?: Knot \x7d",
          "array?: (unknown | string | unknown)[]"],
        { texts := [(0, "(unknown | string | unknown)[]"), (1, "(unknown | string | unknown)"),
            (1, "unknown"), (2, "string"), (0, "unknown")] }) := by
  have hrange : ∀ id < knot.size, ∀ part ∈ knot.children id, part < knot.size := by decide +kernel
  have hparts : ∀ id, ∀ part ∈ knot.children id, part < knot.size := fun id part hpart =>
    hrange id (lt_size_of_mem_children hpart) part hpart
  obtain ⟨hstate, hsession⟩ := renderer_ends hparts {}
  refine ⟨hparts, ?_, ?_⟩
  · obtain ⟨text, texts, hrun, haround⟩ := hstate { underway := {0} } (.used 1) (by decide)
    obtain ⟨rfl, rfl⟩ := haround [0] rfl
    rw [hrun 4 (by decide)]
    decide +kernel
  · rw [hsession knotCalls (by decide +kernel) 5 (by decide)]
    decide +kernel

end TypeGraph
end SchemaTypings
