import SchemaTypings.Proofs.Literals
import SchemaTypings.Proofs.Merging
import SchemaTypings.Proofs.Readability
import SchemaTypings.Proofs.Spelling

/-! # The structures of classes

Merging compares the structures of types as texts.  The structure of a class begins with the word
for classes and ends with the names of its bases.  No other structure begins so, unless the text of
some type does, and the names are read back from behind the last brace.  Neither needs that types
are written as they are at first: it is enough that a reference is remembered by its target, and
that nothing remembered begins as a class.
-/
namespace SchemaTypings

/-! ### How texts begin -/

/-- A text begins as the structure of a class. -/
def BeginsAsClass (text : String) : Prop := "class ".toList <+: text.toList

instance (text : String) : Decidable (BeginsAsClass text) := inferInstanceAs (Decidable (_ <+: _))

theorem not_beginsAsClass_of_head {text : String} {c : Char} (h : text.toList.head? = some c)
    (hc : c ≠ 'c') : ¬ BeginsAsClass text := by
  rintro ⟨rest, hrest⟩
  rw [← hrest] at h
  exact hc (Option.some.inj h).symm

/-- A word has no blank. -/
theorem not_beginsAsClass_of_isPlain {text : String} (h : Phrase.IsPlain text) :
    ¬ BeginsAsClass text := by
  intro hprefix
  have hblank : ' ' ∈ text.toList := hprefix.subset (by decide)
  exact absurd (h.chars ' ' hblank) (by decide)

theorem not_beginsAsClass_of_isIdentifier {text : String}
    (h : Identifier.isIdentifier text = true) : ¬ BeginsAsClass text :=
  not_beginsAsClass_of_isPlain (Phrase.isPlain_of_isIdentifier h)

namespace Json

theorem not_beginsAsClass_text (v : Json) : ¬ BeginsAsClass v.text := by
  cases v with
  | null => decide
  | bool b => cases b <;> decide
  | number n => exact not_beginsAsClass_of_isPlain (Number.isNumeral_text n).isPlain
  | string s =>
    refine not_beginsAsClass_of_head (c := '"') ?_ (by decide)
    rw [text, quote, String.toList_ofList, List.head?_cons]
  | array items =>
    refine not_beginsAsClass_of_head (c := '[') ?_ (by decide)
    rw [text, String.toList_append, String.toList_append]
    rfl
  | object entries =>
    refine not_beginsAsClass_of_head (c := '\x7b') ?_ (by decide)
    rw [text, String.toList_append, String.toList_append]
    rfl

end Json

namespace TypeGraph

theorem not_beginsAsClass_parenthesize {text : String} (h : ¬ BeginsAsClass text) :
    ¬ BeginsAsClass (parenthesize text) := by
  unfold parenthesize
  split
  · refine not_beginsAsClass_of_head (c := '(') ?_ (by decide)
    rw [String.toList_append, String.toList_append]
    rfl
  · exact h

/-- Brackets behind a text do not complete the word for classes. -/
theorem not_beginsAsClass_arrayText {text : String} (h : ¬ BeginsAsClass text) :
    ¬ BeginsAsClass (arrayText text) := by
  have helement := not_beginsAsClass_parenthesize h
  rw [BeginsAsClass, arrayText, String.toList_append]
  rintro ⟨rest, hrest⟩
  rcases List.append_eq_append_iff.1 hrest with ⟨middle, hmiddle, -⟩ | ⟨middle, hmiddle, hbrackets⟩
  · exact helement ⟨middle, hmiddle.symm⟩
  · cases middle with
    | nil => exact helement ⟨[], by simpa using hmiddle⟩
    | cons c middle =>
      have hc : c = '[' := (List.cons.inj hbrackets).1.symm
      have hmem : c ∈ "class ".toList := hmiddle ▸ List.mem_append_right _ (List.mem_cons_self ..)
      exact absurd (hc ▸ hmem) (by decide)

theorem not_beginsAsClass_unionText {texts : List String}
    (h : ∀ text ∈ texts, ¬ BeginsAsClass text) : ¬ BeginsAsClass (unionText texts) := by
  unfold unionText
  split
  · decide
  · exact h _ (List.mem_singleton_self _)
  · refine not_beginsAsClass_of_head (c := '(') ?_ (by decide)
    rw [String.toList_append, String.toList_append]
    rfl

theorem not_beginsAsClass_intersectionText {texts : List String}
    (h : ∀ text ∈ texts, ¬ BeginsAsClass text) : ¬ BeginsAsClass (intersectionText texts) := by
  unfold intersectionText
  split
  · decide
  · exact h _ (List.mem_singleton_self _)
  · refine not_beginsAsClass_of_head (c := '(') ?_ (by decide)
    rw [String.toList_append, String.toList_append]
    rfl

theorem head?_tupleText (elements : List String) (spread : Option String) :
    (tupleText elements spread).toList.head? = some '[' := by
  rw [tupleText, String.toList_append, String.toList_append]
  rfl

theorem not_beginsAsClass_boundedText (placeholder : String) (elements : List String) (min : Nat)
    (max : Option Nat) (spread : Option String) :
    ¬ BeginsAsClass (boundedText placeholder elements min max spread) := by
  -- the first of the tuples opens a bracket
  obtain ⟨shape, shapes, hshapes⟩ := List.exists_cons_of_ne_nil
    (show tupleShapes placeholder elements min max spread ≠ [] by simp [tupleShapes])
  have hhead := head?_tupleText shape.1 shape.2
  refine not_beginsAsClass_of_head (c := '[') ?_ (by decide)
  rw [boundedText, hshapes, List.map_cons]
  cases hrest : shapes.map fun shape => tupleText shape.1 shape.2 with
  | nil => rw [String.intercalate_singleton, hhead]
  | cons next rest =>
    rw [String.intercalate_cons_cons, String.toList_append, String.toList_append, List.append_assoc,
      List.head?_append, hhead]
    rfl

theorem not_beginsAsClass_recordText (signatures : List String) :
    ¬ BeginsAsClass (recordText signatures) := by
  unfold recordText
  split
  · decide
  · refine not_beginsAsClass_of_head (c := '\x7b') ?_ (by decide)
    rw [String.toList_append, String.toList_append]
    rfl

theorem not_beginsAsClass_enumerationText (entries : List EnumEntry) :
    ¬ BeginsAsClass (enumerationText entries) := by
  refine not_beginsAsClass_unionText fun text htext => ?_
  obtain ⟨entry, -, rfl⟩ := List.mem_map.1 htext
  exact entry.value.not_beginsAsClass_text

theorem not_beginsAsClass_placeholder (o : Options) : ¬ BeginsAsClass o.placeholder := by
  unfold Options.placeholder
  split <;> decide

/-! ### What is remembered -/

/-- **The structures of classes are told apart** from other texts: names and targets are
identifiers, and no text that a schema gives begins as a class. -/
structure TellsClasses (g : TypeGraph) : Prop where
  names : ∀ id name, g.name? id = some name → Identifier.isIdentifier name = true
  targets : ∀ id target, g.kind id = .reference target → Identifier.isIdentifier target = true
  customs : ∀ id text, g.kind id = .custom text → ¬ BeginsAsClass text

/-- What is written out for a type: it does not begin as a class, and is the target of a
reference. -/
structure WritesText (g : TypeGraph) (id : TypeId) (text : String) : Prop where
  notClass : ¬ BeginsAsClass text
  target : ∀ target, g.kind id = .reference target → text = target

/-- Nothing else is remembered. -/
def Sober (g : TypeGraph) (texts : Texts) : Prop := ∀ entry ∈ texts, g.WritesText entry.1 entry.2

/-- What is written for a type where it is used: its name, if it has one. -/
structure Uses (g : TypeGraph) (id : TypeId) (text : String) : Prop where
  notClass : ¬ BeginsAsClass text
  name : ∀ name, g.name? id = some name → text = name
  target : g.name? id = none → ∀ target, g.kind id = .reference target → text = target

variable {g : TypeGraph} {o : Options}

theorem TellsClasses.after_useText (hg : g.TellsClasses) {raw : TypeId → Rendering String}
    {id : TypeId} (hraw : ∀ s, g.Sober s →
      After (raw id) s fun text t => g.Sober t ∧ g.WritesText id text)
    {s : Texts} (hs : g.Sober s) :
    After (useText g raw id) s fun text t => g.Sober t ∧ g.Uses id text := by
  unfold useText
  cases hname : g.name? id with
  | some name =>
    refine after_pure.2 ⟨hs, not_beginsAsClass_of_isIdentifier (hg.names id name hname), ?_, ?_⟩
    · rintro other hother
      exact Option.some.inj (hname.symm.trans hother)
    · intro hnone
      rw [hname] at hnone
      cases hnone
  | none =>
    -- a type without a name is used as it is written out
    have huses : ∀ {text}, g.WritesText id text → g.Uses id text := by
      intro text htext
      refine ⟨htext.notClass, fun name hsome => ?_, fun _ => htext.target⟩
      rw [hname] at hsome
      cases hsome
    refine after_bind.2 (after_get.2 ?_)
    cases hlookup : s.lookup id with
    | some text =>
      obtain ⟨before, after, rfl, -⟩ := List.lookup_eq_some_iff.1 hlookup
      exact after_pure.2 ⟨hs, huses (hs (id, text) (List.mem_append_right _
        (List.mem_cons_self ..)))⟩
    | none =>
      refine after_bind.2 ((hraw s hs).mono fun text t ⟨ht, htext⟩ => ?_)
      refine after_bind.2 (after_modify.2 (after_pure.2 ⟨fun entry hentry => ?_, huses htext⟩))
      rcases List.mem_cons.1 hentry with rfl | hentry
      · exact htext
      · exact ht entry hentry

/-- A kind does not begin as a class, if the parts that it shows do not. -/
theorem after_kindText_not_beginsAsClass {I : Texts → Prop} {raw : TypeId → Rendering String}
    {kind : TypeKind} (hcustom : ∀ text, kind = .custom text → ¬ BeginsAsClass text)
    (htarget : ∀ target, kind = .reference target → ¬ BeginsAsClass target)
    (hraw : ∀ c ∈ kind.shown, ∀ s, I s →
      After (raw c) s fun text t => I t ∧ ¬ BeginsAsClass text)
    {s : Texts} (hs : I s) :
    After (kindText o raw kind) s fun text t => I t ∧ ¬ BeginsAsClass text := by
  have hparts : ∀ ids : List TypeId, (∀ c ∈ ids, c ∈ kind.shown) → ∀ s, I s →
      After (ids.mapM raw) s fun texts t => I t ∧ ∀ text ∈ texts, ¬ BeginsAsClass text := by
    intro ids hids s hs
    refine (after_mapM_forall₂ (fun c hc => hraw c (hids c hc)) hs).mono ?_
    rintro texts t ⟨ht, hall⟩
    refine ⟨ht, fun text htext => ?_⟩
    obtain ⟨-, -, hno⟩ := exists_left_of_forall₂ hall text htext
    exact hno
  cases kind with
  | any | unknown | null | boolean | number | string | object =>
    exact after_pure.2 ⟨hs, by decide⟩
  | literal value => exact after_pure.2 ⟨hs, value.not_beginsAsClass_text⟩
  | enumeration entries => exact after_pure.2 ⟨hs, not_beginsAsClass_enumerationText entries⟩
  | reference target => exact after_pure.2 ⟨hs, htarget target rfl⟩
  | custom text => exact after_pure.2 ⟨hs, hcustom text rfl⟩
  | array element =>
    exact after_map.2 ((hraw element (List.mem_singleton_self _) s hs).mono
      fun text t ⟨ht, htext⟩ => ⟨ht, not_beginsAsClass_arrayText htext⟩)
  | tuple elements min max spread =>
    have helements := hparts elements (fun c hc => List.mem_append_left _ hc) s hs
    refine after_bind.2 (helements.mono fun texts t ⟨ht, _⟩ => after_bind.2 ?_)
    have hrest : After (spread.mapM raw) t fun _ u => I u := by
      cases spread with
      | none => exact after_pure.2 ht
      | some c =>
        have hshown : c ∈ (TypeKind.tuple elements min max (some c)).shown :=
          List.mem_append_right _ (List.mem_singleton_self c)
        exact after_map.2 ((hraw c hshown t ht).mono fun _ _ hu => hu.1)
    exact hrest.mono fun rest u hu =>
      after_pure.2 ⟨hu, not_beginsAsClass_boundedText _ texts min max rest⟩
  | union members =>
    exact after_map.2 ((hparts members (fun _ hc => hc) s hs).mono
      fun texts t ⟨ht, htexts⟩ => ⟨ht, not_beginsAsClass_unionText htexts⟩)
  | intersection members =>
    exact after_map.2 ((hparts members (fun _ hc => hc) s hs).mono
      fun texts t ⟨ht, htexts⟩ => ⟨ht, not_beginsAsClass_intersectionText htexts⟩)
  | record members bases =>
    have hmembers : ∀ m ∈ members.filter Member.isVisible, ∀ s, I s →
        After (signatureText o m <$> raw m.type) s fun _ t => I t ∧ True := by
      intro m hm s hs
      have hshown : m.type ∈ (TypeKind.record members bases).shown := List.mem_map.2 ⟨m, hm, rfl⟩
      exact after_map.2 ((hraw m.type hshown s hs).mono fun _ _ ht => ⟨ht.1, trivial⟩)
    refine after_map.2 ((after_mapM_forall₂ (Q := fun _ _ => True) hmembers hs).mono ?_)
    exact fun signatures t ht => ⟨ht.1, not_beginsAsClass_recordText signatures⟩

/-- **What is written out for a type**, by induction on the types that are not being written.  A
reference shows nothing, so it is never being written around another type. -/
theorem TellsClasses.after_rawText (hg : g.TellsClasses) (o : Options) {active : List TypeId}
    (hactive : ∀ a ∈ active, ∀ target, g.kind a ≠ .reference target) (id : TypeId) {s : Texts}
    (hs : g.Sober s) :
    After (rawText g o active id) s fun text t => g.Sober t ∧ g.WritesText id text := by
  induction hn : (g.idle active).length using Nat.strong_induction_on generalizing active id s with
  | _ n ih =>
    subst hn
    rw [rawText]
    split
    · next h =>
      have htarget : ∀ target, g.kind id = .reference target → ¬ BeginsAsClass target :=
        fun target htarget => not_beginsAsClass_of_isIdentifier (hg.targets id target htarget)
      by_cases href : ∃ target, g.kind id = .reference target
      · obtain ⟨target, hkind⟩ := href
        rw [hkind]
        refine after_pure.2 ⟨hs, htarget target hkind, fun other hother => ?_⟩
        rw [hkind] at hother
        cases hother
        rfl
      · have hnone : ∀ target, g.kind id ≠ .reference target := fun target hkind =>
          href ⟨target, hkind⟩
        refine (after_kindText_not_beginsAsClass (hg.customs id) htarget (fun c hc s hs => ?_)
          hs).mono fun text t h =>
            ⟨h.1, h.2, fun target hkind => absurd hkind (hnone target)⟩
        refine (hg.after_useText (fun s hs => ?_) hs).mono fun _ _ h => ⟨h.1, h.2.notClass⟩
        refine ih _ (length_idle_cons_lt h.1 h.2) (fun a ha => ?_) c hs rfl
        rcases List.mem_cons.1 ha with rfl | ha
        · exact hnone
        · exact hactive a ha
    · next h =>
      refine after_pure.2 ⟨hs, not_beginsAsClass_placeholder o, fun target hkind => ?_⟩
      -- a reference is in range and not being written
      have hid : id < g.size := lt_size_of_kind_ne (by simp [hkind])
      exact absurd ⟨hid, fun hmem => hactive id hmem target hkind⟩ h

theorem TellsClasses.after_renderRaw (hg : g.TellsClasses) (o : Options) (id : TypeId) {s : Texts}
    (hs : g.Sober s) :
    After (g.renderRaw o id) s fun text t => g.Sober t ∧ g.WritesText id text :=
  hg.after_rawText o (fun _ ha => absurd ha List.not_mem_nil) id hs

theorem TellsClasses.after_render (hg : g.TellsClasses) (o : Options) (id : TypeId) {s : Texts}
    (hs : g.Sober s) : After (g.render o id) s fun text t => g.Sober t ∧ g.Uses id text :=
  hg.after_useText (fun _ hs => hg.after_renderRaw o id hs) hs

/-! ### Structures -/

/-- The structure of a class. -/
def classStructure (body : String) (names : List String) : String :=
  "class " ++ body ++ " extends " ++ ", ".intercalate names

theorem beginsAsClass_classStructure (body : String) (names : List String) :
    BeginsAsClass (classStructure body names) := by
  rw [BeginsAsClass, classStructure]
  simp only [String.toList_append, List.append_assoc]
  exact List.prefix_append ..

/-- Lists of identifiers are read back as tuples are. -/
theorem eq_of_intercalate_eq {names names' : List String}
    (hnames : ∀ name ∈ names, Identifier.isIdentifier name = true)
    (hnames' : ∀ name ∈ names', Identifier.isIdentifier name = true)
    (h : ", ".intercalate names = ", ".intercalate names') : names = names' := by
  have hproper : ∀ list : List String, (∀ name ∈ list, Identifier.isIdentifier name = true) →
      Phrase.Proper .open (.tuple (list.map .word)) := by
    refine fun list hlist => .tight (.tuple fun p hp => ?_)
    obtain ⟨name, hname, rfl⟩ := List.mem_map.1 hp
    exact .item (Phrase.proper_keyword (hlist name hname))
  have htext : ∀ list : List String,
      (Phrase.tuple (list.map .word)).text = "[" ++ ", ".intercalate list ++ "]" := by
    intro list
    have hwords : (list.map Phrase.word).map Phrase.text = list := by
      induction list with
      | nil => rfl
      | cons name rest ih => rw [List.map_cons, List.map_cons, ih, Phrase.text]
    rw [Phrase.text, hwords]
  have htuple := Phrase.eq_of_text_eq (hproper names hnames) (hproper names' hnames')
    (by rw [htext, htext, h])
  exact List.map_injective_iff.2 (fun _ _ => Phrase.word.inj) (Phrase.tuple.inj htuple)

/-- The body of a class ends with a brace. -/
theorem exists_toList_recordText (signatures : List String) :
    ∃ cs, (recordText signatures).toList = cs ++ ['\x7d'] := by
  unfold recordText
  split
  · exact ⟨['\x7b'], rfl⟩
  · rw [String.toList_append]
    exact ⟨_ ++ [' '], by rw [List.append_assoc]; rfl⟩

/-- There is no brace behind the body of a class. -/
theorem brace_not_mem_bases {names : List String}
    (hnames : ∀ name ∈ names, Identifier.isIdentifier name = true) :
    '\x7d' ∉ " extends ".toList ++ (", ".intercalate names).toList := by
  have hname : ∀ name ∈ names, '\x7d' ∉ name.toList := by
    intro name hname hmem
    exact absurd ((Phrase.isPlain_of_isIdentifier (hnames name hname)).chars _ hmem) (by decide)
  rw [List.mem_append, not_or]
  refine ⟨by decide, ?_⟩
  induction names with
  | nil => simp
  | cons first rest ih =>
    have ih := ih (fun name h => hnames name (List.mem_cons_of_mem _ h))
      fun name h => hname name (List.mem_cons_of_mem _ h)
    have hfirst := hname first (List.mem_cons_self ..)
    cases rest with
    | nil => simpa using hfirst
    | cons second rest =>
      rw [String.intercalate_cons_cons, String.toList_append, String.toList_append]
      simp only [List.mem_append, not_or]
      exact ⟨⟨hfirst, by decide⟩, ih⟩

/-- What is behind the last of some character. -/
theorem eq_of_append_cons_eq {α : Type} {c : α} {x x' z z' : List α} (hz : c ∉ z) (hz' : c ∉ z')
    (h : x ++ c :: z = x' ++ c :: z') : z = z' := by
  rcases List.append_eq_append_iff.1 h with ⟨m, -, hm⟩ | ⟨m, -, hm⟩
  · cases m with
    | nil => exact (List.cons.inj hm).2
    | cons d m =>
      refine absurd ?_ hz
      rw [(List.cons.inj hm).2]
      exact List.mem_append_right _ (List.mem_cons_self ..)
  · cases m with
    | nil => exact (List.cons.inj hm).2.symm
    | cons d m =>
      refine absurd ?_ hz'
      rw [(List.cons.inj hm).2]
      exact List.mem_append_right _ (List.mem_cons_self ..)

/-- The names of bases are read back from behind the last brace. -/
theorem names_eq_of_classStructure_eq {signatures signatures' names names' : List String}
    (hnames : ∀ name ∈ names, Identifier.isIdentifier name = true)
    (hnames' : ∀ name ∈ names', Identifier.isIdentifier name = true)
    (h : classStructure (recordText signatures) names =
      classStructure (recordText signatures') names') : names = names' := by
  obtain ⟨front, hfront⟩ := exists_toList_recordText signatures
  obtain ⟨front', hfront'⟩ := exists_toList_recordText signatures'
  refine eq_of_intercalate_eq hnames hnames' ?_
  have hchars := congrArg String.toList h
  simp only [classStructure, String.toList_append, hfront, hfront', List.append_assoc,
    List.cons_append, List.nil_append, List.append_cancel_left_eq] at hchars
  have hrest := eq_of_append_cons_eq (brace_not_mem_bases hnames) (brace_not_mem_bases hnames')
    hchars
  exact String.toList_inj.1 (List.append_cancel_left hrest)

/-- The name under which a base is written. -/
def baseName (g : TypeGraph) (base : TypeId) : String :=
  match g.name? base, g.kind base with
  | some name, _ => name
  | none, .reference target => target
  | none, _ => ""

/-- **Bases are written as names**: each has one, or is a reference. -/
def BasesNamed (g : TypeGraph) : Prop :=
  ∀ id, ∀ base ∈ (g.kind id).bases,
    (g.name? base).isSome ∨ ∃ target, g.kind base = .reference target

/-- **What the structure of a type tells**: whether the type is a class, and the names of its
bases. -/
structure Tells (g : TypeGraph) (id : TypeId) (text : String) : Prop where
  record : (g.kind id).isRecord = true → ∃ signatures,
    text = classStructure (recordText signatures) ((g.kind id).bases.map g.baseName)
  other : (g.kind id).isRecord = false → ¬ BeginsAsClass text

theorem TellsClasses.after_base (hg : g.TellsClasses) (o : Options) {base : TypeId}
    (hbase : (g.name? base).isSome ∨ ∃ target, g.kind base = .reference target) {s : Texts}
    (hs : g.Sober s) :
    After (g.render o base) s fun text t => g.Sober t ∧ text = g.baseName base := by
  refine (hg.after_render o base hs).mono fun text t ⟨ht, htext⟩ => ⟨ht, ?_⟩
  unfold baseName
  split
  · next name hname => exact htext.name name hname
  · next target hname hkind => exact htext.target hname target hkind
  · next hname hkind =>
    rcases hbase with h | ⟨target, h⟩
    · rw [hname] at h
      cases h
    · exact absurd h (hkind target)

theorem after_recordText (g : TypeGraph) (o : Options) {id : TypeId}
    (hrecord : (g.kind id).isRecord = true) (s : Texts) :
    After (g.renderRaw o id) s fun text _ => ∃ signatures, text = recordText signatures := by
  have hid : id < g.size := lt_size_of_kind_ne fun h => by simp [h, TypeKind.isRecord] at hrecord
  rw [renderRaw, rawText, dif_pos ⟨hid, List.not_mem_nil⟩]
  cases hkind : g.kind id with
  | record members bases => exact after_map.2 ⟨_, rfl⟩
  | _ =>
    rw [hkind] at hrecord
    cases hrecord

theorem TellsClasses.after_structureText (hg : g.TellsClasses) (hbases : g.BasesNamed)
    (o : Options) (id : TypeId) {s : Texts} (hs : g.Sober s) :
    After (structureText g o id) s fun text t => g.Sober t ∧ g.Tells id text := by
  have hplain : (g.kind id).isRecord = false → ∀ {text}, ¬ BeginsAsClass text →
      g.Tells id text := by
    intro hkind text htext
    refine ⟨fun h => ?_, fun _ => htext⟩
    rw [hkind] at h
    cases h
  have hraw : (g.kind id).isRecord = false →
      After (renderRaw g o id) s fun text t => g.Sober t ∧ g.Tells id text := fun hkind =>
    (hg.after_renderRaw o id hs).mono fun text t ⟨ht, htext⟩ => ⟨ht, hplain hkind htext.notClass⟩
  unfold structureText
  cases hkind : g.kind id with
  | enumeration entries =>
    refine after_pure.2 ⟨hs, hplain (by rw [hkind]; rfl) ?_⟩
    refine not_beginsAsClass_of_head (c := 'e') ?_ (by decide)
    rw [String.toList_append, String.toList_append]
    rfl
  | record members bases =>
    have hrecord : (g.kind id).isRecord = true := by rw [hkind]; rfl
    have hnames := after_mapM_map (I := g.Sober) (fun base hbase s hs =>
      hg.after_base o (hbases id base (by rw [hkind]; exact hbase)) hs) hs
    refine after_bind.2 (hnames.mono fun names t ⟨ht, hnames⟩ => after_bind.2 ?_)
    obtain ⟨hu, -⟩ := hg.after_renderRaw o id ht
    obtain ⟨signatures, hbody⟩ := after_recordText g o hrecord t
    refine ⟨hu, fun _ => ⟨signatures, ?_⟩, fun h => ?_⟩
    · change "class " ++ ((renderRaw g o id).run t).1 ++ " extends " ++ ", ".intercalate names = _
      rw [hbody, hnames, hkind]
      rfl
    · rw [hrecord] at h
      cases h
  | _ => exact hraw (by rw [hkind]; rfl)

/-- What is compared tells of every named type whether it is a class, and of which bases. -/
theorem TellsClasses.tells_of_mem_bearersOf (hg : g.TellsClasses) (hbases : g.BasesNamed)
    {ids : List TypeId} {b : Bearer} (hb : b ∈ ((bearersOf g o ids).run {}).1) :
    g.Tells b.id b.shape :=
  (after_bearersOf (fun id _ _ _ _ hs => hg.after_structureText hbases o id hs)
    (fun _ h => absurd h List.not_mem_nil)).2 b hb

/-- **Types of one structure** are all classes or none is. -/
theorem Tells.isRecord_eq {a b : TypeId} {text : String} (ha : g.Tells a text)
    (hb : g.Tells b text) : (g.kind a).isRecord = (g.kind b).isRecord := by
  have hbegins : ∀ {id}, g.Tells id text → ((g.kind id).isRecord = true ↔ BeginsAsClass text) := by
    intro id hid
    constructor
    · intro hrecord
      obtain ⟨signatures, rfl⟩ := hid.record hrecord
      exact beginsAsClass_classStructure ..
    · intro htext
      by_contra hno
      exact hid.other (Bool.eq_false_iff.2 hno) htext
  rw [Bool.eq_iff_iff, hbegins ha, hbegins hb]

theorem TellsClasses.isIdentifier_baseName (hg : g.TellsClasses) (hbases : g.BasesNamed)
    {id : TypeId} : ∀ name ∈ (g.kind id).bases.map g.baseName,
      Identifier.isIdentifier name = true := by
  intro name hname
  obtain ⟨base, hbase, rfl⟩ := List.mem_map.1 hname
  unfold baseName
  split
  · next name hname => exact hg.names base name hname
  · next target _ hkind => exact hg.targets base target hkind
  · next hnone hkind =>
    rcases hbases id base hbase with h | ⟨target, h⟩
    · rw [hnone] at h
      cases h
    · exact absurd h (hkind target)

/-- **Classes of one structure** have bases of the same names. -/
theorem TellsClasses.map_baseName_eq (hg : g.TellsClasses) (hbases : g.BasesNamed) {a b : TypeId}
    {text : String} (ha : g.Tells a text) (hb : g.Tells b text)
    (hrecord : (g.kind a).isRecord = true) :
    (g.kind a).bases.map g.baseName = (g.kind b).bases.map g.baseName := by
  obtain ⟨signatures, hsignatures⟩ := ha.record hrecord
  obtain ⟨signatures', hsignatures'⟩ := hb.record (ha.isRecord_eq hb ▸ hrecord)
  exact names_eq_of_classStructure_eq (hg.isIdentifier_baseName hbases)
    (hg.isIdentifier_baseName hbases) (hsignatures.symm.trans hsignatures')

end TypeGraph
end SchemaTypings
