import SchemaTypings.Proofs.Spelling

/-! # Types that are written out inside others

A type with a name is written as its name, and every other type is written out where it is used.
Where every cycle passes a type with a name, writing out ends, so that every type has one phrase,
and its text is that of the phrase.
-/
namespace SchemaTypings

namespace TypeGraph

/-- **A graph whose texts can be read**: parts are in range, names are identifiers, all kinds have
words, and every cycle passes a type with a name. -/
structure Legible (g : TypeGraph) : Prop where
  parts : ∀ id, ∀ part ∈ g.children id, part < g.size
  kinds : ∀ id, (g.kind id).IsSpelled
  names : ∀ id name, g.name? id = some name → Identifier.isIdentifier name = true
  cycles : g.CyclesNamed

/-! ### The phrase of a type -/

/-- The phrase of a type, written out at most `levels` deep. -/
def phraseWithin (g : TypeGraph) (o : Options) : Nat → TypeId → Phrase
  | 0, _ => .word o.placeholder
  | levels + 1, id =>
    Phrase.ofKind o (fun c => match g.name? c with
      | some name => .word name
      | none => phraseWithin g o levels c) (g.kind id)

/-- **The phrase of the structure of a type.**  As many levels as there are types are enough. -/
def phrase (g : TypeGraph) (o : Options) (id : TypeId) : Phrase :=
  g.phraseWithin o (g.size + 2) id

/-- **The phrase of a type where it is used**: its name or its structure. -/
def usePhrase (g : TypeGraph) (o : Options) (id : TypeId) : Phrase :=
  match g.name? id with
  | some name => .word name
  | none => g.phrase o id

theorem usePhrase_of_name {g : TypeGraph} {o : Options} {id : TypeId} {name : String}
    (h : g.name? id = some name) : g.usePhrase o id = .word name := by
  rw [usePhrase, h]

theorem usePhrase_of_none {g : TypeGraph} {o : Options} {id : TypeId} (h : g.name? id = none) :
    g.usePhrase o id = g.phrase o id := by
  rw [usePhrase, h]

/-- The phrase of a kind depends on the parts that it shows. -/
theorem ofKind_congr (o : Options) {use use' : TypeId → Phrase} {kind : TypeKind}
    (h : ∀ c ∈ kind.shown, use c = use' c) : Phrase.ofKind o use kind = Phrase.ofKind o use' kind := by
  cases kind with
  | array element => rw [Phrase.ofKind, Phrase.ofKind, h element (List.mem_singleton_self _)]
  | tuple elements min max spread =>
    have helements : elements.map use = elements.map use' :=
      List.map_congr_left fun c hc => h c (List.mem_append_left _ hc)
    have hspread : spread.map use = spread.map use' := by
      cases spread with
      | none => rfl
      | some c => exact congrArg some (h c (List.mem_append_right _ (List.mem_singleton_self _)))
    rw [Phrase.ofKind, Phrase.ofKind, helements, hspread]
  | union members =>
    have hmembers : members.map use = members.map use' := List.map_congr_left h
    rw [Phrase.ofKind, Phrase.ofKind, hmembers]
  | intersection members =>
    have hmembers : members.map use = members.map use' := List.map_congr_left h
    rw [Phrase.ofKind, Phrase.ofKind, hmembers]
  | record members bases =>
    rw [Phrase.ofKind, Phrase.ofKind]
    refine congrArg _ (List.map_congr_left fun m hm => ?_)
    rw [h m.type (List.mem_map.2 ⟨m, hm, rfl⟩)]
  | _ => rfl

variable {g : TypeGraph} {o : Options}

/-- A rank of the types without names, along which writing out goes down. -/
theorem Legible.exists_rank (hg : g.Legible) :
    ∃ rank : TypeId → Nat, (∀ a, rank a ≤ g.size) ∧
      ∀ a b, g.UnnamedStep a b → rank b < rank a := by
  obtain ⟨rank, hle, hlt⟩ := hg.cycles.exists_rank
  exact ⟨rank, hle, fun a b hab => hlt a b (hg.parts a b hab.2.1) hab⟩

/-- **The phrase of a type is made from those of its parts.** -/
theorem Legible.phrase_eq (hg : g.Legible) (o : Options) (id : TypeId) :
    g.phrase o id = Phrase.ofKind o (g.usePhrase o) (g.kind id) := by
  obtain ⟨rank, hle, hlt⟩ := hg.exists_rank
  -- beyond the rank of a type the number of levels does not matter
  have hstable : ∀ m n id, g.name? id = none → rank id < m → rank id < n →
      g.phraseWithin o m id = g.phraseWithin o n id := by
    intro m
    induction m with
    | zero => exact fun n id _ hm => absurd hm (Nat.not_lt_zero _)
    | succ m ih =>
      intro n id hid hm hn
      match n, hn with
      | n + 1, hn =>
        refine ofKind_congr o fun c hc => ?_
        cases hname : g.name? c with
        | some name => rfl
        | none =>
          have hc := hlt id c ⟨hid, mem_children_of_mem_shown hc, hname⟩
          exact ih n c hname (by omega) (by omega)
  refine ofKind_congr o fun c hc => ?_
  cases hname : g.name? c with
  | some name => rw [usePhrase_of_name hname]
  | none =>
    rw [usePhrase_of_none hname]
    have hc := hle c
    exact hstable _ _ c hname (by omega) (by omega)

theorem Legible.proper_phrase (hg : g.Legible) (o : Options) (id : TypeId) :
    Phrase.Proper .open (g.phrase o id) := by
  have hwithin : ∀ levels id, Phrase.Proper .open (g.phraseWithin o levels id) := by
    intro levels
    induction levels with
    | zero => exact fun _ => Phrase.proper_placeholder o
    | succ levels ih =>
      intro id
      refine Phrase.proper_ofKind o (hg.kinds id) fun c _ => ?_
      cases hname : g.name? c with
      | some name => exact Phrase.proper_keyword (hg.names c name hname)
      | none => exact ih c
  exact hwithin _ id

theorem Legible.proper_usePhrase (hg : g.Legible) (o : Options) (id : TypeId) :
    Phrase.Proper .open (g.usePhrase o id) := by
  unfold usePhrase
  split
  · next name hname => exact Phrase.proper_keyword (hg.names id name hname)
  · exact hg.proper_phrase o id

/-! ### Texts of types -/

/-- **The structure of a type is written as its phrase.** -/
theorem Legible.ownText_eq (hg : g.Legible) (o : Options) {id : TypeId} (hid : id < g.size) :
    g.ownText o id = (g.phrase o id).text := by
  obtain ⟨rank, -, hlt⟩ := hg.exists_rank
  -- one level: where the parts that are written out are written as their phrases, so is the type
  have hlevel : ∀ id, id < g.size →
      (∀ c, g.Inlines id c → g.ownText o c = (g.phrase o c).text) →
      g.ownText o id = (g.phrase o id).text := by
    intro id hid hparts
    have huse : ∀ c ∈ (g.kind id).shown, g.usedText o c = (g.usePhrase o c).text := by
      intro c hc
      cases hname : g.name? c with
      | some name => rw [usedText_of_name hname, usePhrase_of_name hname, Phrase.text]
      | none => rw [usedText_of_none hname, usePhrase_of_none hname, hparts c ⟨hc, hname⟩]
    rw [hg.cycles.ownText_eq o hid, hg.phrase_eq, textFrom_congr huse]
    exact Phrase.textFrom_text (hg.kinds id) fun c _ => hg.proper_usePhrase o c
  have hsize : ∀ {a c}, g.Inlines a c → c < g.size := fun hc =>
    hg.parts _ _ (mem_children_of_mem_shown hc.1)
  have hunnamed : ∀ n id, rank id < n → g.name? id = none → id < g.size →
      g.ownText o id = (g.phrase o id).text := by
    intro n
    induction n with
    | zero => exact fun id hn => absurd hn (Nat.not_lt_zero _)
    | succ n ih =>
      intro id hn hname hid
      refine hlevel id hid fun c hc => ?_
      have hrank := hlt id c (hc.unnamedStep hname)
      exact ih c (by omega) hc.2 (hsize hc)
  exact hlevel id hid fun c hc => hunnamed _ c (Nat.lt_succ_self _) hc.2 (hsize hc)

/-- **A type is written as its phrase where it is used.** -/
theorem Legible.usedText_eq (hg : g.Legible) (o : Options) {id : TypeId} (hid : id < g.size) :
    g.usedText o id = (g.usePhrase o id).text := by
  cases hname : g.name? id with
  | some name => rw [usedText_of_name hname, usePhrase_of_name hname, Phrase.text]
  | none => rw [usedText_of_none hname, usePhrase_of_none hname, hg.ownText_eq o hid]

end TypeGraph
end SchemaTypings
