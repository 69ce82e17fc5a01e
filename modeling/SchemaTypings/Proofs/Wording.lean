import SchemaTypings.Proofs.Denotation
import SchemaTypings.Proofs.Numerals

/-! # Types that are written alike

In a graph whose names and literals can be told apart, types that are written alike admit the same
values, be they written as names or written out, as long as no class that is written out has bases.
A type that is only another name for itself admits nothing.
-/
namespace SchemaTypings
namespace TypeGraph

/-- The values that a graph writes out. -/
def literals (g : TypeGraph) : Set Json := {v | ∃ id, v ∈ (g.kind id).literals}

/-- **A graph without types of unknown form**: its literals are scalar, its names distinct, and every
cycle passes a type with a name. -/
structure Ordinary (g : TypeGraph) : Prop where
  parts : ∀ id, ∀ part ∈ g.children id, part < g.size
  known : ∀ id < g.size, g.kind id ≠ .any ∧ ∀ text, g.kind id ≠ .custom text
  scalar : ∀ id value, g.kind id = .literal value → value.IsScalar
  forms : ∀ v ∈ g.literals, v.HasForm
  distinct : ∀ id other name, g.name? id = some name → g.name? other = some name → id = other
  cycles : g.CyclesNamed

/-- **An ordinary graph in which all words can be told apart**: names are names of types, and the
values of enumerations are scalar. -/
structure Describable (g : TypeGraph) : Prop extends Ordinary g where
  names : ∀ id name, g.name? id = some name → IsTypeName name
  targets : ∀ id target, g.kind id = .reference target → IsTypeName target
  entries : ∀ id entries, g.kind id = .enumeration entries →
    ∀ entry ∈ entries, entry.value.IsScalar

/-- A type is written out in the structure of another, at any depth. -/
def WritesOut (g : TypeGraph) : TypeId → TypeId → Prop := Relation.ReflTransGen g.Inlines

/-- **A class with bases is written out** in the structure of a type. -/
def HidesBases (g : TypeGraph) (id : TypeId) : Prop :=
  ∃ m, g.WritesOut id m ∧ (g.kind m).bases ≠ []

variable {g : TypeGraph} {o : Options}

theorem kind_of_size_le {id : TypeId} (h : g.size ≤ id) : g.kind id = .any := by
  rw [TypeGraph.kind, node, Array.getElem?_eq_none h]
  rfl

/-- The literals of a graph are told apart by their texts. -/
theorem Describable.toldApart (hg : g.Describable) : ToldApart g.literals := by
  have hscalar : ∀ v ∈ g.literals, v.IsScalar := by
    rintro v ⟨id, hv⟩
    cases hkind : g.kind id with
    | literal value =>
      rw [hkind] at hv
      rw [List.mem_singleton.1 hv]
      exact hg.scalar id value hkind
    | enumeration entries =>
      rw [hkind] at hv
      obtain ⟨entry, hentry, rfl⟩ := List.mem_map.1 hv
      exact hg.entries id entries hkind entry hentry
    | _ =>
      rw [hkind] at hv
      cases hv
  exact ⟨hscalar, fun v hv w hw =>
    Json.text_injective (hscalar v hv) (hscalar w hw) (hg.forms v hv) (hg.forms w hw)⟩

theorem Describable.isSpelled (hg : g.Describable) (id : TypeId) : (g.kind id).IsSpelled := by
  cases hkind : g.kind id with
  | literal value => exact hg.scalar id value hkind
  | enumeration entries => exact hg.entries id entries hkind
  | reference target => exact (hg.targets id target hkind).isIdentifier
  | custom text =>
    rcases Nat.lt_or_ge id g.size with hlt | hle
    · exact absurd hkind ((hg.known id hlt).2 text)
    · rw [kind_of_size_le hle] at hkind
      cases hkind
  | _ => trivial

theorem Describable.legible (hg : g.Describable) : g.Legible where
  parts := hg.parts
  kinds := hg.isSpelled
  names := fun id name hname => (hg.names id name hname).isIdentifier
  cycles := hg.cycles

/-- The types of a name are the one that has it. -/
theorem Describable.bearing_eq (hg : g.Describable) {P : TypeId → Set Json} {id : TypeId}
    {name : String} (hname : g.name? id = some name) : g.bearing P name = P id := by
  refine Set.ext fun v => ⟨?_, fun hv => ⟨id, hname, hv⟩⟩
  rintro ⟨other, hother, hv⟩
  rw [hg.distinct id other name hname hother]
  exact hv

/-! ### What phrases of types admit -/

/-- A type satisfies its equation in `P`, and no base of it goes unwritten. -/
def Fits (g : TypeGraph) (P : TypeId → Set Json) (id : TypeId) : Prop :=
  P id = g.meaning P id ∧ (g.kind id).bases = []

theorem Fits.eq {P : TypeId → Set Json} {id : TypeId} (h : g.Fits P id) :
    kindValues (g.bearing P) P (g.kind id).body = P id := by
  rw [TypeKind.body_of_bases h.2]
  exact h.1.symm

theorem fits_of_not_hidesBases {P : TypeId → Set Json} {x m : TypeId} (h : ¬ g.HidesBases x)
    (hm : g.WritesOut x m) (hP : P m = g.meaning P m) : g.Fits P m :=
  ⟨hP, not_not.1 fun hbases => h ⟨m, hm, hbases⟩⟩

/-- A path along parts that are written out passes types without names. -/
theorem unnamedStep_of_writesOut {a b : TypeId} (ha : g.name? a = none) (h : g.WritesOut a b) :
    g.name? b = none ∧ Relation.ReflTransGen g.UnnamedStep a b := by
  induction h with
  | refl => exact ⟨ha, .refl⟩
  | tail _ hstep ih => exact ⟨hstep.2, ih.2.tail (hstep.unnamedStep ih.1)⟩

/-- **A type that is written out admits what its phrase admits**, where every type that is written
out in it satisfies its equation. -/
theorem Describable.values_phrase (hg : g.Describable) (o : Options) {P : TypeId → Set Json}
    {id : TypeId} (h : ∀ m, Relation.TransGen g.Inlines id m → g.Fits P m) :
    (g.phrase o id).values g.literals (g.bearing P) =
      kindValues (g.bearing P) P (g.kind id).body := by
  obtain ⟨rank, -, hlt⟩ := hg.legible.exists_rank
  have hlevel : ∀ id, (∀ c, g.Inlines id c → (g.phrase o c).values g.literals (g.bearing P) = P c) →
      (g.phrase o id).values g.literals (g.bearing P) =
        kindValues (g.bearing P) P (g.kind id).body := by
    intro id hparts
    rw [hg.legible.phrase_eq]
    refine Phrase.values_ofKind hg.toldApart o (hg.isSpelled id) (fun v hv => ⟨id, hv⟩)
      (hg.targets id) (fun c _ => hg.legible.proper_usePhrase o c) fun c hc => ?_
    cases hname : g.name? c with
    | some name =>
      rw [usePhrase_of_name hname, Phrase.values,
        Phrase.wordValues_of_name hg.toldApart (hg.names c name hname), hg.bearing_eq hname]
    | none =>
      rw [usePhrase_of_none hname]
      exact hparts c ⟨hc, hname⟩
  have hunnamed : ∀ n id, rank id < n → g.name? id = none →
      (∀ m, g.WritesOut id m → g.Fits P m) →
      (g.phrase o id).values g.literals (g.bearing P) = P id := by
    intro n
    induction n with
    | zero => exact fun id hn => absurd hn (Nat.not_lt_zero _)
    | succ n ih =>
      intro id hn hname hfits
      rw [hlevel id fun c hc => ?_, (hfits id .refl).eq]
      have hrank := hlt id c (hc.unnamedStep hname)
      exact ih c (by omega) hc.2 fun m hm => hfits m (.head hc hm)
  refine hlevel id fun c hc => ?_
  exact hunnamed _ c (Nat.lt_succ_self _) hc.2 fun m hm => h m (.head' hc hm)

/-- **A type admits what its phrase admits where it is used.** -/
theorem Describable.values_usePhrase (hg : g.Describable) (o : Options) {P : TypeId → Set Json}
    {id : TypeId} (h : g.name? id = none → ∀ m, g.WritesOut id m → g.Fits P m) :
    (g.usePhrase o id).values g.literals (g.bearing P) = P id := by
  cases hname : g.name? id with
  | some name =>
    rw [usePhrase_of_name hname, Phrase.values,
      Phrase.wordValues_of_name hg.toldApart (hg.names id name hname), hg.bearing_eq hname]
  | none =>
    have hfits := h hname
    rw [usePhrase_of_none hname, hg.values_phrase o fun m hm => hfits m hm.to_reflTransGen]
    exact (hfits id .refl).eq

/-- Types that are written alike where they are used admit the same values. -/
theorem Describable.eq_of_use_eq (hg : g.Describable) {P : TypeId → Set Json} {x y : TypeId}
    (hx : g.name? x = none → ∀ m, g.WritesOut x m → g.Fits P m)
    (hy : g.name? y = none → ∀ m, g.WritesOut y m → g.Fits P m)
    (h : (g.usePhrase o x).text = (g.usePhrase o y).text) : P x = P y := by
  have hphrase := Phrase.eq_of_text_eq (hg.legible.proper_usePhrase o x)
    (hg.legible.proper_usePhrase o y) h
  rw [← hg.values_usePhrase o hx, hphrase, hg.values_usePhrase o hy]

/-- A type that is written as the structure of another admits what that one admits. -/
theorem Describable.eq_of_structure_eq (hg : g.Describable) {P : TypeId → Set Json}
    {x y : TypeId} (hx : g.name? x = none → ∀ m, g.WritesOut x m → g.Fits P m)
    (hy : ∀ m, g.WritesOut y m → g.Fits P m)
    (h : (g.usePhrase o x).text = (g.phrase o y).text) : P x = P y := by
  have hphrase := Phrase.eq_of_text_eq (hg.legible.proper_usePhrase o x)
    (hg.legible.proper_phrase o y) h
  rw [← hg.values_usePhrase o hx, hphrase, hg.values_phrase o fun m hm => hy m hm.to_reflTransGen]
  exact (hy y .refl).eq

/-! ### Other names -/

/-- A type is only another name for one: a union or intersection of it alone, or a reference. -/
def Renames (g : TypeGraph) (a b : TypeId) : Prop :=
  g.kind a = .union [b] ∨ g.kind a = .intersection [b] ∨
    ∃ name, g.kind a = .reference name ∧ g.name? b = some name

/-- **A type that is only another name for itself admits nothing.** -/
theorem Describable.not_renames_self (hg : g.Describable) {id : TypeId} {v : Json}
    (hv : v ∈ g.values id) : ¬ Relation.TransGen g.Renames id id := by
  -- what is admitted is admitted by a type at which renaming ends
  have hends : g.values id ⊆ {_v | Acc (fun b a => g.Renames a b) id} := by
    refine values_subset (P := fun id => {_v | Acc (fun b a => g.Renames a b) id}) ?_ id
    intro a w hw
    refine Acc.intro a fun b hab => ?_
    rcases hab with hkind | hkind | ⟨name, hkind, hname⟩
    · rw [meaning, hkind] at hw
      obtain ⟨m, hm, hw⟩ := hw
      rw [List.mem_singleton.1 hm] at hw
      exact hw
    · rw [meaning, hkind] at hw
      exact hw b (List.mem_singleton_self b)
    · rw [meaning, hkind] at hw
      obtain ⟨other, hother, hw⟩ := hw
      rw [hg.distinct b other name hname hother]
      exact hw
  have hirreflexive : ∀ a, Acc (fun b a => g.Renames a b) a → ¬ Relation.TransGen g.Renames a a := by
    intro a hacc
    induction hacc with
    | intro a _ ih =>
      intro hcycle
      obtain ⟨b, hab, hba⟩ := Relation.TransGen.head'_iff.1 hcycle
      exact ih b hab (.tail' hba hab)
  exact hirreflexive id (hends hv)

/-- A union or intersection that is written as a name has one member, which is written so. -/
theorem sole_of_word {use : TypeId → Phrase} {members : List TypeId} {name : String}
    (hname : IsTypeName name) (h : Phrase.ofUnion (members.map use) = .word name ∨
      Phrase.ofIntersection (members.map use) = .word name) :
    ∃ c, members = [c] ∧ use c = .word name := by
  match members, h with
  | [], Or.inl h =>
    cases h
    exact absurd (by decide) hname.notReserved
  | [], Or.inr h =>
    cases h
    exact absurd (by decide) hname.notReserved
  | [c], Or.inl h => exact ⟨c, rfl, h⟩
  | [c], Or.inr h => exact ⟨c, rfl, h⟩
  | _ :: _ :: _, Or.inl h => cases h
  | _ :: _ :: _, Or.inr h => cases h

/-- What is written as a name is only another name for something that is written so, or a
reference. -/
theorem Describable.renames_of_word (hg : g.Describable) {id : TypeId} {name : String}
    (hname : IsTypeName name) (h : g.phrase o id = .word name) :
    (∃ c, g.Renames id c ∧ c ∈ (g.kind id).shown ∧ g.usePhrase o c = .word name) ∨
      g.kind id = .reference name := by
  have hreserved : ∀ s ∈ reservedWords, name ≠ s := fun s hs heq => hname.notReserved (heq ▸ hs)
  have hliteral : ∀ v : Json, v.IsScalar → name ≠ v.text := by
    rintro v hv rfl
    have hkeywords : ∀ s ∈ ["null", "true", "false"], s ∈ reservedWords := by decide
    exact hname.notReserved (hkeywords _ (Json.text_mem_of_isIdentifier hv hname.isIdentifier))
  rw [hg.legible.phrase_eq] at h
  have hspelled := hg.isSpelled id
  cases hkind : g.kind id with
  | union members =>
    rw [hkind] at h
    obtain ⟨c, rfl, hc⟩ := sole_of_word hname (Or.inl h)
    exact Or.inl ⟨c, Or.inl hkind, List.mem_singleton_self c, hc⟩
  | intersection members =>
    rw [hkind] at h
    obtain ⟨c, rfl, hc⟩ := sole_of_word hname (Or.inr h)
    exact Or.inl ⟨c, Or.inr (Or.inl hkind), List.mem_singleton_self c, hc⟩
  | reference target =>
    rw [hkind] at h
    cases h
    exact Or.inr rfl
  | literal value =>
    rw [hkind] at h hspelled
    cases h
    exact absurd rfl (hliteral value hspelled)
  | enumeration entries =>
    rw [hkind] at h hspelled
    rw [Phrase.ofKind] at h
    rcases entries with - | ⟨entry, - | ⟨next, rest⟩⟩
    · cases h
      exact absurd rfl (hreserved _ (by decide))
    · cases h
      exact absurd rfl (hliteral entry.value (hspelled entry (List.mem_singleton_self _)))
    · cases h
  | tuple elements min max spread =>
    rw [hkind] at h
    have hloose : ∀ shapes : List (List Phrase × Option Phrase),
        Phrase.loose (shapes.map Phrase.ofShape) ≠ .word name := by
      intro shapes heq
      rcases shapes with - | ⟨shape, - | ⟨next, rest⟩⟩ <;> cases heq
    exact absurd h (hloose _)
  | custom text =>
    rw [hkind] at hspelled
    exact hspelled.elim
  | array element =>
    rw [hkind] at h
    cases h
  | record members bases =>
    rw [hkind] at h
    cases h
  | any | unknown | null | boolean | number | string | object =>
    rw [hkind] at h
    cases h
    exact absurd rfl (hreserved _ (by decide))

/-- **What is written as one name is only another name for its type.** -/
theorem Describable.renames_of_phrase (hg : g.Describable) {id other : TypeId} {name : String}
    (hname : g.name? other = some name) (h : g.phrase o id = .word name) :
    Relation.TransGen g.Renames id other := by
  have htype := hg.names other name hname
  obtain ⟨rank, -, hlt⟩ := hg.legible.exists_rank
  have hlevel : ∀ id, g.phrase o id = .word name →
      (∀ c, g.Inlines id c → g.phrase o c = .word name → Relation.TransGen g.Renames c other) →
      Relation.TransGen g.Renames id other := by
    intro id h hparts
    rcases hg.renames_of_word htype h with ⟨c, hrenames, hshown, hc⟩ | hkind
    · cases hcname : g.name? c with
      | some cname =>
        rw [usePhrase_of_name hcname] at hc
        rw [Phrase.word.inj hc] at hcname
        exact .single (hg.distinct c other name hcname hname ▸ hrenames)
      | none =>
        rw [usePhrase_of_none hcname] at hc
        exact .head hrenames (hparts c ⟨hshown, hcname⟩ hc)
    · exact .single (Or.inr (Or.inr ⟨name, hkind, hname⟩))
  have hunnamed : ∀ n id, rank id < n → g.name? id = none → g.phrase o id = .word name →
      Relation.TransGen g.Renames id other := by
    intro n
    induction n with
    | zero => exact fun id hn => absurd hn (Nat.not_lt_zero _)
    | succ n ih =>
      intro id hn hid h
      refine hlevel id h fun c hc hphrase => ?_
      have hrank := hlt id c (hc.unnamedStep hid)
      exact ih c (by omega) hc.2 hphrase
  exact hlevel id h fun c hc hphrase => hunnamed _ c (Nat.lt_succ_self _) hc.2 hphrase

end TypeGraph
end SchemaTypings
