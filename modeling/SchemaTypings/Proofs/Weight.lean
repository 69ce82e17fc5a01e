import Mathlib.Algebra.Order.BigOperators.Group.List
import Mathlib.Algebra.Order.Monoid.Canonical.Basic
import Mathlib.Algebra.Order.Ring.Nat
import SchemaTypings.Proofs.Operations
import SchemaTypings.Proofs.Wording

/-! # What is written out is no larger

The weight of a phrase counts its words and brackets.  A type that is written out in another is no
heavier than it, and a union of several members is heavier than each of them; so no type can be
written like one in which a union around it is written out.
-/
namespace SchemaTypings
namespace Phrase
open TypeGraph

/-- **The weight of a phrase**: its words and brackets. -/
def weight : Phrase → Nat
  | word _ => 1
  | array p => weight p + 1
  | either ps => (ps.map weight).sum
  | group _ ps => (ps.map weight).sum + 1
  | tuple items => (items.map weight).sum + 1
  | spread p => weight p
  | record fields => (fields.map weight).sum + 1
  | field _ p => weight p

theorem weight_le_sum {p : Phrase} {ps : List Phrase} (h : p ∈ ps) :
    p.weight ≤ (ps.map weight).sum := List.le_sum_of_mem (List.mem_map.2 ⟨p, h, rfl⟩)

theorem weight_le_grouped (p : Phrase) : p.weight ≤ p.grouped.weight := by
  cases p with
  | either ps =>
    rw [grouped, weight, weight]
    exact Nat.le_succ _
  | _ => exact Nat.le_refl _

theorem sum_alternatives (p : Phrase) : (p.alternatives.map weight).sum = p.weight := by
  cases p with
  | either ps => rw [alternatives, weight]
  | _ => simp [alternatives]

theorem weight_loose (ps : List Phrase) : (loose ps).weight = (ps.map weight).sum := by
  match ps with
  | [] => rw [loose, weight]; simp
  | [p] => simp [loose]
  | p :: q :: rest => rw [loose, weight]; simp

/-- A union of several members is heavier than they are together. -/
theorem weight_ofUnion {ps : List Phrase} (h : 2 ≤ ps.length) :
    (ofUnion ps).weight = (ps.map weight).sum + 1 := by
  have hsum : ∀ ps : List Phrase, ((ps.flatMap alternatives).map weight).sum =
      (ps.map weight).sum := by
    intro ps
    induction ps with
    | nil => rfl
    | cons p ps ih =>
      rw [List.flatMap_cons, List.map_append, List.sum_append, sum_alternatives, ih, List.map_cons,
        List.sum_cons]
  match ps, h with
  | p :: q :: rest, _ =>
    rw [ofUnion, weight, hsum]
    · simp
    · simp

theorem weight_le_ofUnion {p : Phrase} {ps : List Phrase} (h : p ∈ ps) :
    p.weight ≤ (ofUnion ps).weight := by
  match ps with
  | [q] => exact List.mem_singleton.1 h ▸ Nat.le_refl _
  | q :: r :: rest =>
    rw [weight_ofUnion (by simp)]
    exact Nat.le_succ_of_le (weight_le_sum h)

theorem weight_le_ofIntersection {p : Phrase} {ps : List Phrase} (h : p ∈ ps) :
    p.weight ≤ (ofIntersection ps).weight := by
  match ps with
  | [q] => exact List.mem_singleton.1 h ▸ Nat.le_refl _
  | q :: r :: rest =>
    have hgroup : (ofIntersection (q :: r :: rest)).weight =
        (((q :: r :: rest).map grouped).map weight).sum + 1 := by
      rw [ofIntersection, weight]
      · simp
      · simp
    rw [hgroup]
    exact Nat.le_succ_of_le ((weight_le_grouped p).trans
      (weight_le_sum (List.mem_map.2 ⟨p, h, rfl⟩)))

theorem weight_le_ofMember (o : Options) (m : Member) (p : Phrase) :
    p.weight ≤ (ofMember o m p).weight := by
  rw [ofMember, weight]
  split
  · rw [weight]
    exact (weight_le_grouped p).trans (weight_le_sum (List.mem_cons_self ..))
  · exact Nat.le_refl _

/-- **A part that a kind shows is no heavier than the kind.** -/
theorem weight_le_ofKind (o : Options) (use : TypeId → Phrase) {kind : TypeKind} {c : TypeId}
    (h : c ∈ kind.shown) : (use c).weight ≤ (ofKind o use kind).weight := by
  cases kind with
  | array element =>
    rw [List.mem_singleton.1 h, ofKind, weight]
    exact Nat.le_succ_of_le (weight_le_grouped _)
  | union members => exact weight_le_ofUnion (List.mem_map.2 ⟨c, h, rfl⟩)
  | intersection members => exact weight_le_ofIntersection (List.mem_map.2 ⟨c, h, rfl⟩)
  | record members bases =>
    obtain ⟨m, hm, rfl⟩ := List.mem_map.1 h
    rw [ofKind, weight]
    exact Nat.le_succ_of_le ((weight_le_ofMember o m _).trans
      (weight_le_sum (List.mem_map.2 ⟨m, hm, rfl⟩)))
  | tuple elements min max spread =>
    -- the longest alternative shows all elements and the spread
    let all := tupleElements (word o.placeholder) (elements.map use) max (spread.map use)
    let rest := tupleSpread (word o.placeholder) (elements.map use).length min max (spread.map use)
    have hlast : (all, rest) ∈ tupleShapes (word o.placeholder) (elements.map use) min max
        (spread.map use) := List.mem_append_right _ (List.mem_singleton_self _)
    rw [ofKind, weight_loose]
    refine Nat.le_trans ?_ (weight_le_sum (List.mem_map.2 ⟨_, hlast, rfl⟩))
    rw [ofShape, weight]
    refine Nat.le_succ_of_le ?_
    rcases List.mem_append.1 h with hc | hc
    · have hall : use c ∈ all := by
        have hmap : use c ∈ elements.map use := List.mem_map.2 ⟨c, hc, rfl⟩
        change use c ∈ tupleElements _ _ _ _
        unfold tupleElements
        split
        · exact List.mem_append_left _ hmap
        · exact hmap
      exact weight_le_sum (List.mem_append_left _ hall)
    · cases spread with
      | none => cases hc
      | some d =>
        rw [List.mem_singleton.1 hc]
        have hspread : (Phrase.spread (use d).grouped).weight = (use d).grouped.weight := by
          rw [weight]
        refine (weight_le_grouped _).trans (hspread ▸ weight_le_sum ?_)
        exact List.mem_append_right _ (List.mem_singleton_self _)
  | _ => cases h

end Phrase

namespace TypeGraph

variable {g : TypeGraph} {o : Options}

theorem Legible.weight_usePhrase_le (hg : g.Legible) {a c : TypeId} (hc : c ∈ (g.kind a).shown) :
    (g.usePhrase o c).weight ≤ (g.phrase o a).weight := by
  rw [hg.phrase_eq o a]
  exact Phrase.weight_le_ofKind o (g.usePhrase o) hc

/-- **What is written out is no heavier.** -/
theorem Legible.weight_le_of_writesOut (hg : g.Legible) {a b : TypeId} (h : g.WritesOut a b) :
    (g.phrase o b).weight ≤ (g.phrase o a).weight := by
  induction h with
  | refl => exact Nat.le_refl _
  | tail _ hstep ih =>
    refine Nat.le_trans ?_ ih
    rw [← usePhrase_of_none hstep.2]
    exact hg.weight_usePhrase_le hstep.1

/-! ### Flattened members -/

theorem two_le_length {α : Type} {x y : α} {list : List α} (hx : x ∈ list) (hy : y ∈ list)
    (hne : x ≠ y) : 2 ≤ list.length := by
  match list with
  | [] => cases hx
  | [a] => exact absurd ((List.mem_singleton.1 hx).trans (List.mem_singleton.1 hy).symm) hne
  | _ :: _ :: _ => simp

/-- Each of several members of a union is lighter than the union. -/
theorem Legible.weight_lt_of_mem (hg : g.Legible) {id : TypeId} {members : List TypeId}
    (hkind : g.kind id = .union members) (hlen : 2 ≤ members.length) {x : TypeId}
    (hx : x ∈ members) : (g.usePhrase o x).weight < (g.phrase o id).weight := by
  have hweight : (g.phrase o id).weight =
      ((members.map (g.usePhrase o)).map Phrase.weight).sum + 1 := by
    rw [hg.phrase_eq, hkind, Phrase.ofKind, Phrase.weight_ofUnion (by simpa using hlen)]
  rw [hweight]
  exact Nat.lt_succ_of_le (Phrase.weight_le_sum (List.mem_map.2 ⟨x, hx, rfl⟩))

/-- **Each of several flattened members of a union is lighter than the union.** -/
theorem Legible.weight_lt_of_mem_flatMembers (hg : g.Legible) {id : TypeId} {members : List TypeId}
    (hkind : g.kind id = .union members) {x y : TypeId} (hx : x ∈ g.flatMembers id)
    (hy : y ∈ g.flatMembers id) (hne : x ≠ y) :
    (g.usePhrase o x).weight < (g.phrase o id).weight := by
  have hoperands : (g.kind id).operands? = some (true, members) := by rw [hkind]; rfl
  have hnested : ∀ m, (g.kind m).operands? = some (true, flattenMember g id true m) →
      g.kind m = .union (flattenMember g id true m) := by
    intro m hm
    cases hkindm : g.kind m with
    | union inner =>
      rw [hkindm] at hm
      cases hm
      rfl
    | _ =>
      rw [hkindm] at hm
      cases hm
  match members with
  | [] =>
    rw [flatMembers_eq hoperands] at hx
    cases hx
  | [m] =>
    -- a single member was taken in, and what is written is that member
    rw [flatMembers_eq hoperands, List.flatMap_singleton] at hx hy
    rcases flattenMember_cases g id true m with hself | ⟨-, hname, hinner⟩
    · rw [hself, List.mem_singleton] at hx hy
      exact absurd (hx.trans hy.symm) hne
    · have hphrase : g.phrase o id = g.phrase o m := by
        rw [hg.phrase_eq, hkind, ← usePhrase_of_none hname]
        rfl
      rw [hphrase]
      exact hg.weight_lt_of_mem (hnested m hinner) (two_le_length hx hy hne) hx
  | m :: n :: rest =>
    rcases mem_flatMembers hoperands hx with hx | ⟨p, hp, -, hname, hinner, hx⟩
    · exact hg.weight_lt_of_mem hkind (by simp) hx
    · refine Nat.lt_of_le_of_lt ?_ (hg.weight_lt_of_mem hkind (by simp) hp)
      rw [usePhrase_of_none hname]
      refine hg.weight_usePhrase_le ?_
      rw [hnested p hinner]
      exact hx

end TypeGraph
end SchemaTypings
