import SchemaTypings.Proofs.Weight
import SchemaTypings.TypeGraph.Simplify

/-! # Members that repeat others

Of the members of an operation the sieve keeps the first of those that are written alike, and drops
an unnamed one that is written as the structure of a named one.  What it drops is admitted by a
member that it keeps, unless something with bases is written out in it, or the named one is only
another name for itself.
-/
namespace SchemaTypings
namespace TypeGraph

/-- A type without a name is written as the structure of one with a name. -/
structure SpellsOut (g : TypeGraph) (o : Options) (x k : TypeId) : Prop where
  unnamed : g.name? x = none
  named : (g.name? k).isSome
  text_eq : g.usedText o x = g.ownText o k

variable {g : TypeGraph} {o : Options}

/-- Types are written alike where they have one phrase. -/
theorem Legible.usePhrase_eq (hg : g.Legible) {x y : TypeId} (hx : x < g.size) (hy : y < g.size) :
    g.usedText o x = g.usedText o y ↔ g.usePhrase o x = g.usePhrase o y := by
  rw [hg.usedText_eq o hx, hg.usedText_eq o hy]
  refine ⟨fun h => ?_, fun h => by rw [h]⟩
  exact Phrase.eq_of_text_eq (hg.proper_usePhrase o x) (hg.proper_usePhrase o y) h

theorem Legible.usePhrase_eq_phrase (hg : g.Legible) {x k : TypeId} (hx : x < g.size)
    (hk : k < g.size) : g.usedText o x = g.ownText o k ↔ g.usePhrase o x = g.phrase o k := by
  rw [hg.usedText_eq o hx, hg.ownText_eq o hk]
  refine ⟨fun h => ?_, fun h => by rw [h]⟩
  exact Phrase.eq_of_text_eq (hg.proper_usePhrase o x) (hg.proper_phrase o k) h

/-! ### What the sieve keeps -/

/-- The sieve chooses among members. -/
theorem after_distinctMembers_sublist {named : List String} {members : List TypeId} :
    ∀ (seen : List String) (s : Texts), After (distinctMembers g o named seen members) s
      fun kept _ => kept.Sublist members := by
  induction members with
  | nil => exact fun _ _ => after_pure.2 .slnil
  | cons member rest ih =>
    intro seen s
    rw [distinctMembers, after_bind]
    refine After.mono (Q := fun _ _ => True) trivial fun text t _ => ?_
    split
    · exact (ih seen t).mono fun kept _ hkept => hkept.cons member
    · refine after_bind.2 ((ih _ t).mono fun kept _ hkept => ?_)
      split
      · exact after_pure.2 (hkept.cons member)
      · exact after_pure.2 (hkept.cons_cons member)

theorem sublist_dedupeMembers (g : TypeGraph) (o : Options) (members : List TypeId) :
    (dedupeMembers g o members).Sublist members :=
  after_distinctMembers_sublist [] _

theorem mem_of_mem_dedupeMembers {members : List TypeId} {m : TypeId}
    (hm : m ∈ dedupeMembers g o members) : m ∈ members :=
  (sublist_dedupeMembers g o members).subset hm

theorem CyclesNamed.after_namedStructures (hg : g.CyclesNamed) {members : List TypeId} {s : Texts}
    (hs : g.Recalls o s) :
    After (namedStructures g o members) s fun texts t => g.Recalls o t ∧
      texts = (members.filter fun m => (g.name? m).isSome).map (g.ownText o) :=
  after_mapM_map (fun m _ _ hs => hg.after_renderRaw o m hs) hs

/-- Whatever the sieve drops is written as a member before, or as one that is a named structure. -/
theorem CyclesNamed.after_distinctMembers (hg : g.CyclesNamed) {named : List String}
    {members : List TypeId} :
    ∀ (seen : List String) {s : Texts}, g.Recalls o s →
      After (distinctMembers g o named seen members) s fun kept t => g.Recalls o t ∧
        ∀ x ∈ members, g.usedText o x ∈ seen ∨ ∃ y ∈ members, g.usedText o y = g.usedText o x ∧
          (y ∈ kept ∨ (g.name? y = none ∧ g.usedText o y ∈ named)) := by
  induction members with
  | nil =>
    intro seen s hs
    rw [distinctMembers, after_pure]
    exact ⟨hs, fun x hx => absurd hx List.not_mem_nil⟩
  | cons member rest ih =>
    intro seen s hs
    rw [distinctMembers, after_bind]
    refine (hg.after_render o member hs).mono fun text t ⟨ht, htext⟩ => ?_
    split
    · next hseen =>
      rw [List.contains_iff_mem, htext] at hseen
      refine (ih seen ht).mono fun kept u ⟨hu, hdropped⟩ => ⟨hu, fun x hx => ?_⟩
      rcases List.mem_cons.1 hx with rfl | hx
      · exact Or.inl hseen
      · refine (hdropped x hx).imp_right fun ⟨y, hy, hyx⟩ => ?_
        exact ⟨y, List.mem_cons_of_mem _ hy, hyx⟩
    · -- the first member of its text stands for all later ones
      have hlater : ∀ kept result : List TypeId, (∀ m ∈ kept, m ∈ result) →
          (member ∈ result ∨ (g.name? member = none ∧ g.usedText o member ∈ named)) →
          (∀ x ∈ rest, g.usedText o x ∈ text :: seen ∨ ∃ y ∈ rest,
            g.usedText o y = g.usedText o x ∧
              (y ∈ kept ∨ (g.name? y = none ∧ g.usedText o y ∈ named))) →
          ∀ x ∈ member :: rest, g.usedText o x ∈ seen ∨ ∃ y ∈ member :: rest,
            g.usedText o y = g.usedText o x ∧
              (y ∈ result ∨ (g.name? y = none ∧ g.usedText o y ∈ named)) := by
        intro kept result hkept hmember hrest x hx
        rcases List.mem_cons.1 hx with rfl | hx
        · exact Or.inr ⟨x, List.mem_cons_self .., rfl, hmember⟩
        · rcases hrest x hx with hseen | ⟨y, hy, hyx, hy'⟩
          · rcases List.mem_cons.1 hseen with hfirst | hseen
            · exact Or.inr ⟨member, List.mem_cons_self .., htext ▸ hfirst.symm, hmember⟩
            · exact Or.inl hseen
          · exact Or.inr ⟨y, List.mem_cons_of_mem _ hy, hyx, hy'.imp_left (hkept y)⟩
      rw [after_bind]
      refine (ih (text :: seen) ht).mono fun kept u ⟨hu, hdropped⟩ => ?_
      split
      · next hdrop =>
        rw [Bool.and_eq_true, Option.isNone_iff_eq_none, List.contains_iff_mem, htext] at hdrop
        exact after_pure.2 ⟨hu, hlater kept kept (fun m hm => hm) (Or.inr hdrop) hdropped⟩
      · exact after_pure.2 ⟨hu, hlater kept (member :: kept)
          (fun m hm => List.mem_cons_of_mem _ hm) (Or.inl (List.mem_cons_self ..)) hdropped⟩

/-- **The sieve** keeps for every member one that is written alike; unless that one spells out a
named member. -/
theorem CyclesNamed.dedupeMembers_spec (hg : g.CyclesNamed) {members : List TypeId} :
    ∀ x ∈ members, ∃ y ∈ members, g.usedText o y = g.usedText o x ∧
      (y ∈ dedupeMembers g o members ∨ ∃ k ∈ members, g.SpellsOut o y k) := by
  have hrun : After (namedStructures g o members >>= fun named =>
      distinctMembers g o named [] members) {} fun kept _ => ∀ x ∈ members, ∃ y ∈ members,
        g.usedText o y = g.usedText o x ∧ (y ∈ kept ∨ ∃ k ∈ members, g.SpellsOut o y k) := by
    refine after_bind.2 ((hg.after_namedStructures (recalls_nil g o)).mono
      fun named t ⟨ht, hnamed⟩ => ?_)
    refine (hg.after_distinctMembers [] ht).mono fun kept _ ⟨_, hdropped⟩ x hx => ?_
    rcases hdropped x hx with hseen | ⟨y, hy, hyx, hy' | ⟨hname, htext⟩⟩
    · exact absurd hseen List.not_mem_nil
    · exact ⟨y, hy, hyx, Or.inl hy'⟩
    · rw [hnamed] at htext
      obtain ⟨k, hk, hkey⟩ := List.mem_map.1 htext
      obtain ⟨hk, hknamed⟩ := List.mem_filter.1 hk
      exact ⟨y, hy, hyx, Or.inr ⟨k, hk, hname, hknamed, hkey.symm⟩⟩
  exact hrun

/-- **For every member one is kept that admits the same**, where types that are written alike admit
the same and no named member that is spelled out is only another name for itself. -/
theorem Describable.exists_kept (hg : g.Describable) {members : List TypeId}
    (hmembers : ∀ m ∈ members, m < g.size) {P : TypeId → Set Json} {x : TypeId} (hx : x ∈ members)
    (halike : ∀ y ∈ members, ∀ z ∈ members, g.usedText o y = g.usedText o z → P y = P z)
    (hspelled : ∀ y ∈ members, ∀ k ∈ members, g.SpellsOut o y k → P y = P k)
    (hacyclic : ∀ y ∈ members, ∀ k ∈ members, g.SpellsOut o y k → P k = P x →
      ¬ Relation.TransGen g.Renames k k) :
    ∃ y ∈ dedupeMembers g o members, P y = P x := by
  have hspec : ∀ x ∈ members, ∃ y ∈ members, g.usedText o y = g.usedText o x ∧
      (y ∈ dedupeMembers g o members ∨ ∃ k ∈ members, g.SpellsOut o y k) :=
    hg.cycles.dedupeMembers_spec
  -- a named member that is spelled out, and the one that is spelled out by what stands for it
  let Spelled (k : TypeId) : Prop := k ∈ members ∧ P k = P x ∧ ∃ y ∈ members, g.SpellsOut o y k
  let Next (k l : TypeId) : Prop := Spelled k ∧ Relation.TransGen g.Renames l k
  have hback : ∀ {k l}, Relation.TransGen Next k l →
      Spelled k ∧ Relation.TransGen g.Renames l k := by
    intro k l h
    induction h with
    | single h => exact h
    | tail _ h ih => exact ⟨ih.1, h.2.trans ih.2⟩
  obtain ⟨rank, -, hrank⟩ := exists_rank (E := Next) g.size fun k hk => by
    obtain ⟨⟨hk, hpk, y, hy, hspells⟩, hcycle⟩ := hback hk
    exact hacyclic y hy k hk hspells hpk hcycle
  have hchain : ∀ n k, rank k < n → Spelled k → ∃ y ∈ dedupeMembers g o members, P y = P x := by
    intro n
    induction n with
    | zero => exact fun k hn => absurd hn (Nat.not_lt_zero _)
    | succ n ih =>
      intro k hn hk
      have hkeep := hk
      obtain ⟨hmem, hpk, y, hy, hspells⟩ := hk
      obtain ⟨z, hz, hzk, hkept | ⟨l, hl, hspells'⟩⟩ := hspec k hmem
      · exact ⟨z, hkept, (halike z hz k hmem hzk).trans hpk⟩
      · have hpl : P l = P x :=
          ((hspelled z hz l hl hspells').symm.trans (halike z hz k hmem hzk)).trans hpk
        obtain ⟨name, hname⟩ := Option.isSome_iff_exists.1 hspells.named
        have hphrase : g.phrase o l = .word name := by
          have hzl := (hg.legible.usePhrase_eq_phrase (hmembers z hz) (hmembers l hl)).1
            hspells'.text_eq
          rw [← hzl, (hg.legible.usePhrase_eq (hmembers z hz) (hmembers k hmem)).1 hzk,
            usePhrase_of_name hname]
        have hnext := hrank k l (hmembers l hl) ⟨hkeep, hg.renames_of_phrase hname hphrase⟩
        exact ih l (by omega) ⟨hl, hpl, z, hz, hspells'⟩
  obtain ⟨y, hy, hyx, hkept | ⟨k, hk, hspells⟩⟩ := hspec x hx
  · exact ⟨y, hkept, halike y hy x hx hyx⟩
  · have hpk := (hspelled y hy k hk hspells).symm.trans (halike y hy x hx hyx)
    exact hchain _ k (Nat.lt_succ_self _) ⟨hk, hpk, y, hy, hspells⟩

end TypeGraph
end SchemaTypings
