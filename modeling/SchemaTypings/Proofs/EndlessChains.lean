import SchemaTypings.Proofs.ReferenceTargets

/-! # Endless chains of references

A chain of bare references that never comes to a schema is refused: as a cycle, or as too deep when
it passes more places than the depth allows.  The chain is the one that is meant.  A root that is
bare is meant as a reference, too, but stops being one when other documents are put below it, and a
chain through it ends there.
-/
namespace SchemaTypings

/-! ### Sequences of partial steps -/

section Orbit

variable {α : Type} {next : α → Option α} {start : α}

/-- What is reached after a number of steps.  Where there is no next one, it stays. -/
def orbit (next : α → Option α) (start : α) : Nat → α
  | 0 => start
  | n + 1 => (next (orbit next start n)).getD (orbit next start n)

/-- The first steps can be taken. -/
def GoesOn (next : α → Option α) (start : α) (n : Nat) : Prop :=
  ∀ i < n, (next (orbit next start i)).isSome = true

/-- Nothing is met twice in the first steps. -/
def Apart (f : Nat → α) (n : Nat) : Prop := ∀ i j, i < j → j ≤ n → f i ≠ f j

/-- What the first steps pass, the last first. -/
def passed (next : α → Option α) (start : α) : Nat → List α
  | 0 => [start]
  | n + 1 => orbit next start (n + 1) :: passed next start n

theorem next_orbit {n i : Nat} (h : GoesOn next start n) (hi : i < n) :
    next (orbit next start i) = some (orbit next start (i + 1)) := by
  obtain ⟨a, ha⟩ := Option.isSome_iff_exists.1 (h i hi)
  rw [orbit, ha, Option.getD_some]

theorem orbit_succ {n : Nat} {a : α} (h : next (orbit next start n) = some a) :
    orbit next start (n + 1) = a := by
  rw [orbit, h, Option.getD_some]

theorem GoesOn.succ {n : Nat} (h : GoesOn next start n) {a : α}
    (ha : next (orbit next start n) = some a) : GoesOn next start (n + 1) := by
  intro i hi
  rcases Nat.lt_succ_iff_lt_or_eq.1 hi with hlt | rfl
  · exact h i hlt
  · rw [ha]
    rfl

theorem exists_passed_eq_cons (next : α → Option α) (start : α) (n : Nat) :
    ∃ earlier, passed next start n = orbit next start n :: earlier := by
  cases n with
  | zero => exact ⟨[], rfl⟩
  | succ n => exact ⟨_, rfl⟩

theorem mem_passed {n : Nat} {a : α} :
    a ∈ passed next start n ↔ ∃ i ≤ n, orbit next start i = a := by
  induction n with
  | zero =>
    rw [passed, List.mem_singleton]
    constructor
    · rintro rfl
      exact ⟨0, Nat.le_refl 0, rfl⟩
    · rintro ⟨i, hi, rfl⟩
      rw [Nat.le_zero.1 hi]
      rfl
  | succ n ih =>
    rw [passed, List.mem_cons, ih]
    constructor
    · rintro (rfl | ⟨i, hi, rfl⟩)
      · exact ⟨n + 1, Nat.le_refl _, rfl⟩
      · exact ⟨i, by omega, rfl⟩
    · rintro ⟨i, hi, rfl⟩
      by_cases hlast : i = n + 1
      · exact Or.inl (by rw [hlast])
      · exact Or.inr ⟨i, by omega, rfl⟩

theorem Apart.succ {n : Nat} (h : Apart (orbit next start) n)
    (hnew : orbit next start (n + 1) ∉ passed next start n) :
    Apart (orbit next start) (n + 1) := by
  intro i j hij hj heq
  by_cases hlast : j = n + 1
  · subst hlast
    exact hnew (mem_passed.2 ⟨i, by omega, heq⟩)
  · exact h i j hij (by omega) heq

end Orbit

namespace Bundle

variable {root A : Json}

/-- The pointer in the bare reference at another pointer. -/
def next? (root : Json) (pointer : String) : Option String :=
  (Pointer.resolve? root pointer).bind bareRef?

theorem next?_eq_some {pointer target : String} : next? root pointer = some target ↔
    ∃ value, Pointer.resolve? root pointer = some value ∧ bareRef? value = some target :=
  Option.bind_eq_some_iff

/-- Why following a chain fails at its next pointer, or behind it. -/
theorem followChain_eq_error {site : Site} {limit steps : Nat} {current : String}
    {earlier : List String} {e : CompileError}
    (h : followChain root site limit steps (current :: earlier) = .error e) :
    Pointer.resolve? root current = none ∨ ∃ target, next? root current = some target ∧
      ((∃ cycle, e = .refCycle cycle) ∨ target ∉ current :: earlier ∧
        (steps = 0 ∧ e = .tooDeep site.pointer limit ∨ ∃ fewer, steps = fewer + 1 ∧
          followChain root site limit fewer (target :: current :: earlier) = .error e)) := by
  unfold followChain at h
  split at h
  · next hgone => exact Or.inl hgone
  · next value hvalue =>
    split at h
    · cases h
    · next target hbare =>
      refine Or.inr ⟨target, next?_eq_some.2 ⟨value, hvalue, hbare⟩, ?_⟩
      by_cases hseen : (current :: earlier).contains target = true
      · rw [if_pos hseen] at h
        cases h
        exact Or.inl ⟨_, rfl⟩
      · rw [if_neg hseen] at h
        refine Or.inr ⟨fun hmem => hseen (List.contains_iff_mem.2 hmem), ?_⟩
        cases steps with
        | zero =>
          cases h
          exact Or.inl ⟨rfl, rfl⟩
        | succ fewer => exact Or.inr ⟨fewer, rfl, h⟩

/-- **Why a chain is not followed to its end**: it comes to nothing, or meets a pointer again, or
goes on for longer than the limit. -/
theorem followChain_passed_eq_error {site : Site} {limit steps k : Nat} {start : String}
    {e : CompileError} (hgoes : GoesOn (next? root) start k)
    (hapart : Apart (orbit (next? root) start) k)
    (h : followChain root site limit steps (passed (next? root) start k) = .error e) :
    (∃ n, GoesOn (next? root) start n ∧
        Pointer.resolve? root (orbit (next? root) start n) = none) ∨
      (∃ cycle, e = .refCycle cycle) ∨
      e = .tooDeep site.pointer limit ∧ GoesOn (next? root) start (k + steps + 1) ∧
        Apart (orbit (next? root) start) (k + steps + 1) := by
  induction steps using Nat.strong_induction_on generalizing k with
  | _ steps ih =>
    obtain ⟨earlier, hpassed⟩ := exists_passed_eq_cons (next? root) start k
    rw [hpassed] at h
    rcases followChain_eq_error h with hgone | ⟨target, hnext, hcycle | ⟨hnew, hend⟩⟩
    · exact Or.inl ⟨k, hgoes, hgone⟩
    · exact Or.inr (Or.inl hcycle)
    · rw [← hpassed, ← orbit_succ hnext] at hnew
      rcases hend with ⟨rfl, rfl⟩ | ⟨fewer, rfl, hrest⟩
      · exact Or.inr (Or.inr ⟨rfl, hgoes.succ hnext, hapart.succ hnew⟩)
      · rw [← hpassed, ← orbit_succ hnext] at hrest
        have hlater := ih fewer fewer.lt_succ_self (hgoes.succ hnext) (hapart.succ hnew) hrest
        rwa [show k + 1 + fewer + 1 = k + (fewer + 1) + 1 by omega] at hlater

/-- A chain that goes on for ever does not end. -/
theorem ne_of_endsAt {start : String} (h : ∀ n, GoesOn (next? root) start n)
    {path last : List String} (hends : EndsAt root path last) (n : Nat) :
    path ≠ Pointer.split (orbit (next? root) start n) := by
  induction hends generalizing n with
  | here hvalue hbare =>
    rintro rfl
    obtain ⟨value, hresolve, hsome⟩ := next?_eq_some.1 (next_orbit (h (n + 1)) n.lt_succ_self)
    cases hvalue.symm.trans hresolve
    cases hbare.symm.trans hsome
  | next hvalue hbare _ ih =>
    rintro rfl
    obtain ⟨value, hresolve, hsome⟩ := next?_eq_some.1 (next_orbit (h (n + 1)) n.lt_succ_self)
    cases hvalue.symm.trans hresolve
    cases hbare.symm.trans hsome
    exact ih (n + 1) rfl

/-- A chain ends at a pointer. -/
def IsEnd (root : Json) (pointer : String) : Prop :=
  ∃ value, Pointer.resolve? root pointer = some value ∧ bareRef? value = none

/-- Where the new document has a bare reference, the old one has one, to the same pointer or to one
whose chain ends at the new pointer. -/
theorem next?_left_of_alike (halike : Alike (Skips A) A root) {pointer target : String}
    (h : next? root pointer = some target) :
    ∃ old, next? A pointer = some old ∧ (target = old ∨ IsEnd A target) := by
  obtain ⟨value, hvalue, hbare⟩ := next?_eq_some.1 h
  obtain ⟨held, hheld, hsame⟩ := halike.exists_follow?_left hvalue
  obtain ⟨old, hold, hrelated⟩ := hsame.bareRef?_left hbare
  exact ⟨old, next?_eq_some.2 ⟨held, hheld, hold⟩, hrelated.imp Eq.symm fun hskips =>
    hskips.exists_value⟩

theorem IsEnd.next?_eq_none (halike : Alike (Skips A) A root) {pointer : String}
    (h : IsEnd A pointer) : next? root pointer = none := by
  obtain ⟨value, hvalue, hbare⟩ := h
  obtain ⟨held, hheld, hsame⟩ := halike.exists_follow? hvalue
  rw [next?, Pointer.resolve?, hheld]
  exact hsame.bareRef?_eq_none.1 hbare

/-- Collapsing fails at a site whose chain is not followed to its end. -/
theorem exists_site_of_foldlM_eq_error (hkeys : A.hasDistinctKeys = true) {limit : Nat}
    {sites : List Site} {b : Bundle} {e : CompileError} (halike : Alike (LastPointer A) A b.schema)
    (h : sites.foldlM (collapseSite limit) b = .error e) :
    ∃ site ∈ sites, ∃ c : Bundle, Alike (Skips A) A c.schema ∧
      concreteTarget c.schema limit site = .error e := by
  induction sites generalizing b with
  | nil => cases h
  | cons first rest ih =>
    rw [List.foldlM_cons] at h
    cases hfirst : collapseSite limit b first with
    | ok c =>
      rw [hfirst] at h
      obtain ⟨site, hsite, found⟩ := ih (of_collapseSite hkeys halike hfirst).1 h
      exact ⟨site, List.mem_cons_of_mem _ hsite, found⟩
    | error other =>
      rw [hfirst] at h
      cases h
      refine ⟨first, List.mem_cons_self, b, halike.mono fun _ _ => LastPointer.endsAt, ?_⟩
      unfold collapseSite at hfirst
      cases htarget : concreteTarget b.schema limit first with
      | ok target =>
        rw [htarget] at hfirst
        cases hfirst
      | error e =>
        rw [htarget] at hfirst
        cases hfirst
        rfl

/-- The target at a site is found from the text that stands there. -/
theorem concreteTarget_eq {limit : Nat} {site : Site} {t : String}
    (ht : TextAt root (Pointer.split site.pointer) t) :
    concreteTarget root limit site = followChain root site limit limit [t] := by
  obtain ⟨entries, hentries, href⟩ := textAt_iff.1 ht
  have hfirst : ((Pointer.resolve? root site.pointer).bind (·.field? Keyword.ref)).bind
      Json.string? = some t := by
    rw [Pointer.resolve?, hentries]
    exact href
  unfold concreteTarget
  rw [hfirst]

end Bundle

namespace Library

open SchemaTypings.Bundle

variable {lib : Library} {passes : Place → String → Prop}

/-- **An endless chain**: bare references lead on for ever. -/
def Endless (lib : Library) (passes : Place → String → Prop) (p : Place) : Prop :=
  ∃ chain : Nat → Place, chain 0 = p ∧ ∀ n, lib.Link passes (chain n) (chain (n + 1))

/-- A chain that passes more than `n` places. -/
def PassesMore (lib : Library) (passes : Place → String → Prop) (n : Nat) (p : Place) : Prop :=
  ∃ chain : Nat → Place, chain 0 = p ∧ (∀ i < n, lib.Link passes (chain i) (chain (i + 1))) ∧
    Apart chain n

/-- The reference at a schema leads to a place. -/
def Refers (lib : Library) (p : Place) : Prop :=
  ∃ site reference, lib.IsSchema site ∧ lib.reference? site = some reference ∧
    lib.named? site reference = some p

/-- The place that the bare reference at a place leads to. -/
def following? (lib : Library) (p : Place) : Option Place :=
  ((lib.value? p).bind bareRef?).bind (lib.named? p)

theorem Link.following?_eq {p q : Place} (h : lib.Link passes p q) : lib.following? p = some q := by
  obtain ⟨value, reference, hvalue, hbare, -, hnamed⟩ := h
  rw [following?, hvalue, Option.bind_some, hbare, Option.bind_some, hnamed]

/-- A chain that goes on for ever, each reference followed as it is meant, never goes astray. -/
theorem Endless.not_strays {p : Place} (h : lib.Endless lib.FollowedAsMeant p) :
    ¬ lib.Strays p := by
  intro hstrays
  induction hstrays with
  | gone hgone =>
    obtain ⟨chain, rfl, hlinks⟩ := h
    obtain ⟨value, -, hvalue, -⟩ := hlinks 0
    cases hgone.symm.trans hvalue
  | astray hvalue hbare hastray =>
    obtain ⟨chain, rfl, hlinks⟩ := h
    obtain ⟨value, reference, hvalue', hbare', hfollowed, -⟩ := hlinks 0
    cases hvalue.symm.trans hvalue'
    cases hbare.symm.trans hbare'
    exact hastray hfollowed
  | next hvalue hbare _ hnamed _ ih =>
    obtain ⟨chain, rfl, hlinks⟩ := h
    obtain ⟨value, reference, hvalue', hbare', -, hnamed'⟩ := hlinks 0
    cases hvalue.symm.trans hvalue'
    cases hbare.symm.trans hbare'
    cases hnamed.symm.trans hnamed'
    exact ih ⟨fun n => chain (n + 1), rfl, fun n => hlinks (n + 1)⟩

variable {source : DocumentSource} {levels : Nat} {whole settled : Json} {p : Place}
  {pointer target : String}

/-- What is meant is the next pointer in the bundle. -/
theorem Shows.exists_next? (h : lib.Shows levels whole)
    (hreserved : lib.schema.field? Keyword.external = none) {q : Place}
    (hpointer : Pointer.split pointer = lib.path p) (hlink : lib.Link lib.FollowedAsMeant p q) :
    ∃ target, next? whole pointer = some target ∧ Pointer.split target = lib.path q := by
  obtain ⟨held, target, hheld, hbare, hsplit⟩ := h.bareRef?_of_link hreserved hlink
  rw [← hpointer] at hheld
  exact ⟨target, next?_eq_some.2 ⟨held, hheld, hbare⟩, hsplit⟩

/-- The next pointer in the bundle is meant, where nothing goes astray. -/
theorem Shows.exists_link_of_next? (h : lib.Shows levels whole)
    (hreserved : lib.schema.field? Keyword.external = none)
    (hpointer : Pointer.split pointer = lib.path p) (hstrays : ¬ lib.Strays p)
    (hnext : next? whole pointer = some target) :
    ∃ q, lib.Link lib.FollowedAsMeant p q ∧ ¬ lib.Strays q ∧
      Pointer.split target = lib.path q := by
  obtain ⟨held, hheld, hbare⟩ := next?_eq_some.1 hnext
  rw [Pointer.resolve?, hpointer] at hheld
  exact h.exists_link hreserved hstrays hheld hbare

/-- An endless chain goes on for ever in the bundle. -/
theorem Shows.goesOn (h : lib.Shows levels whole)
    (hreserved : lib.schema.field? Keyword.external = none)
    (hpointer : Pointer.split pointer = lib.path p) (hendless : lib.Endless lib.FollowedAsMeant p)
    (n : Nat) : GoesOn (next? whole) pointer n := by
  obtain ⟨chain, rfl, hlinks⟩ := hendless
  have hsame : ∀ i, Pointer.split (orbit (next? whole) pointer i) = lib.path (chain i) := by
    intro i
    induction i with
    | zero => exact hpointer
    | succ i ih =>
      obtain ⟨target, hnext, hsplit⟩ := h.exists_next? hreserved ih (hlinks i)
      rw [orbit_succ hnext, hsplit]
  intro i _
  obtain ⟨target, hnext, -⟩ := h.exists_next? hreserved (hsame i) (hlinks i)
  rw [hnext]
  rfl

/-- A pointer of a chain in which nothing goes astray: it leads to a place, or is the end. -/
def OnCourse (lib : Library) (whole : Json) (pointer : String) : Prop :=
  (∃ p, Pointer.split pointer = lib.path p ∧ ¬ lib.Strays p) ∨ IsEnd whole pointer

/-- After some references were collapsed, a chain stays on course. -/
theorem Shows.onCourse_next (h : lib.Shows levels whole)
    (hreserved : lib.schema.field? Keyword.external = none)
    (halike : Alike (Skips whole) whole settled) (hcourse : lib.OnCourse whole pointer)
    (hnext : next? settled pointer = some target) : lib.OnCourse whole target := by
  rcases hcourse with ⟨p, hpointer, hstrays⟩ | hend
  · obtain ⟨old, hold, rfl | hend⟩ := next?_left_of_alike halike hnext
    · obtain ⟨q, -, hq, hsplit⟩ := h.exists_link_of_next? hreserved hpointer hstrays hold
      exact Or.inl ⟨q, hsplit, hq⟩
    · exact Or.inr hend
  · cases (hend.next?_eq_none halike).symm.trans hnext

/-- A chain on course comes to a value. -/
theorem Shows.resolve?_ne_none (h : lib.Shows levels whole)
    (hreserved : lib.schema.field? Keyword.external = none)
    (halike : Alike (Skips whole) whole settled) (hcourse : lib.OnCourse whole pointer) :
    Pointer.resolve? settled pointer ≠ none := by
  obtain ⟨held, hheld⟩ : ∃ held, Pointer.resolve? whole pointer = some held := by
    rcases hcourse with ⟨p, hpointer, hstrays⟩ | ⟨held, hheld, -⟩
    · obtain ⟨value, hvalue⟩ := Option.ne_none_iff_exists'.1 fun hgone => hstrays (.gone hgone)
      obtain ⟨held, hheld, -⟩ := h.holds.exists_value (open_of_value? hreserved hvalue) hvalue
      rw [Pointer.resolve?, hpointer]
      exact ⟨held, hheld⟩
    · exact ⟨held, hheld⟩
  obtain ⟨next, hresolve, -⟩ := halike.exists_follow? hheld
  exact fun hnone => by cases hnone.symm.trans hresolve

/-- A chain that is found too deep passes too many places. -/
theorem Shows.passesMore (h : lib.Shows levels whole)
    (hreserved : lib.schema.field? Keyword.external = none)
    (halike : Alike (Skips whole) whole settled) (hpointer : Pointer.split pointer = lib.path p)
    (hstrays : ¬ lib.Strays p) {n : Nat} (hgoes : GoesOn (next? settled) pointer (n + 1))
    (hapart : Apart (orbit (next? settled) pointer) (n + 1)) :
    lib.PassesMore lib.FollowedAsMeant n p := by
  have hplaces : ∀ i ≤ n,
      Pointer.split (orbit (next? settled) pointer i) = lib.path (orbit lib.following? p i) ∧
        ¬ lib.Strays (orbit lib.following? p i) ∧ ∀ j < i, lib.Link lib.FollowedAsMeant
          (orbit lib.following? p j) (orbit lib.following? p (j + 1)) := by
    intro i hi
    induction i with
    | zero => exact ⟨hpointer, hstrays, fun j hj => absurd hj j.not_lt_zero⟩
    | succ i ih =>
      obtain ⟨hsplit, hcourse, hlinks⟩ := ih (by omega)
      have hnext := next_orbit hgoes (i := i) (by omega)
      obtain ⟨old, hold, heq | hend⟩ := next?_left_of_alike halike hnext
      · rw [← heq] at hold
        obtain ⟨q, hlink, hq, hsplitQ⟩ := h.exists_link_of_next? hreserved hsplit hcourse hold
        rw [orbit_succ hlink.following?_eq]
        refine ⟨hsplitQ, hq, fun j hj => ?_⟩
        rcases Nat.lt_succ_iff_lt_or_eq.1 hj with hlt | rfl
        · exact hlinks j hlt
        · rw [orbit_succ hlink.following?_eq]
          exact hlink
      · -- the chain would end here
        have hmore := hgoes (i + 1) (by omega)
        rw [hend.next?_eq_none halike] at hmore
        cases hmore
  refine ⟨orbit lib.following? p, rfl, (hplaces n (Nat.le_refl n)).2.2, fun i j hij hj heq => ?_⟩
  refine hapart (i + 1) (j + 1) (by omega) (by omega) ?_
  have hsame : Pointer.split (orbit (next? settled) pointer i) =
      Pointer.split (orbit (next? settled) pointer j) := by
    rw [(hplaces i (by omega)).1, (hplaces j hj).1, heq]
  have hnext : next? settled (orbit (next? settled) pointer i) =
      next? settled (orbit (next? settled) pointer j) := by
    rw [next?, next?, Pointer.resolve?, Pointer.resolve?, hsame]
  rw [next_orbit hgoes (i := i) (by omega), next_orbit hgoes (i := j) (by omega)] at hnext
  exact Option.some.inj hnext

/-- **A site at which collapsing fails**, where nothing goes astray: there is a cycle, or the chain
passes too many places. -/
theorem Gathers.refCycle_or_tooDeep {sites : List Site} {limit : Nat} {site : Site}
    {e : CompileError} {c : Bundle} (h : lib.Gathers source levels whole sites)
    (hreserved : lib.schema.field? Keyword.external = none)
    (hstrays : ∀ q, lib.Refers q → ¬ lib.Strays q)
    (halike : Alike (Skips whole) whole c.schema) (hsite : site ∈ sites)
    (herror : concreteTarget c.schema limit site = .error e) :
    (∃ cycle, e = .refCycle cycle) ∨ e = .tooDeep site.pointer limit ∧
      ∃ q, lib.Refers q ∧ lib.PassesMore lib.FollowedAsMeant limit q := by
  obtain ⟨p, -, -, hschema, hreference, hpath, -⟩ := h.stands site hsite
  obtain ⟨q, hnamed, -, t, ht, hsplit⟩ := h.named hschema hreference
  have hrefers : lib.Refers q := ⟨p, _, hschema, hreference, hnamed⟩
  rw [← hpath] at ht
  obtain ⟨first, hfirst, hfrom⟩ := ht.right halike
  have hstart : lib.OnCourse whole first := by
    rcases hfrom with rfl | hskips
    · exact Or.inl ⟨q, hsplit, hstrays q hrefers⟩
    · exact Or.inr hskips.exists_value
  have hcourse : ∀ n, GoesOn (next? c.schema) first n →
      lib.OnCourse whole (orbit (next? c.schema) first n) := by
    intro n
    induction n with
    | zero => exact fun _ => hstart
    | succ n ih =>
      intro hgoes
      exact h.onCourse_next hreserved halike (ih fun i hi => hgoes i (by omega))
        (next_orbit hgoes n.lt_succ_self)
  rw [concreteTarget_eq hfirst] at herror
  rcases followChain_passed_eq_error (k := 0) (fun i hi => absurd hi i.not_lt_zero)
      (fun i j hij hj => by omega) herror with ⟨n, hgoes, hgone⟩ | hcycle | ⟨rfl, hgoes, hapart⟩
  · exact absurd hgone (h.resolve?_ne_none hreserved halike (hcourse n hgoes))
  · exact Or.inl hcycle
  · rw [Nat.zero_add] at hgoes hapart
    refine Or.inr ⟨rfl, q, hrefers, ?_⟩
    rcases hfrom with rfl | hskips
    · exact h.passesMore hreserved halike hsplit (hstrays q hrefers) hgoes hapart
    · have hend : IsEnd whole first := hskips.exists_value
      have hmore := hgoes 0 (by omega)
      rw [orbit, hend.next?_eq_none halike] at hmore
      cases hmore

/-- Every reference at a schema names a place in a document of the library. -/
def IsClosed (lib : Library) : Prop :=
  ∀ p reference, lib.IsSchema p → lib.reference? p = some reference →
    ∃ q, lib.named? p reference = some q ∧ (lib.find? q.document).isSome = true

end Library

/-- **Endless chains are refused.**  Either gathering fails, or it gathers all documents that the
references at schemas lead to; then a schema is not bundled when one of these references starts a
chain that goes on for ever, each reference on it followed as it is meant.  Where no chain goes
astray, nothing is refused but cycles, and chains that pass more places than the depth. -/
theorem endless_reference_refused {schema : Json} {o : Options} {source : DocumentSource}
    (hschema : schema.hasDistinctKeys = true)
    (hsource : ∀ uri value, source.fetch uri = .ok value → value.hasDistinctKeys = true)
    (hreserved : schema.field? Keyword.external = none) :
    (∃ e, Bundle.gather schema o source = .error e ∧ Bundle.ofSchema schema o source = .error e) ∨
    ∃ lib : Library, lib.GatheredFor schema o source ∧ lib.IsClosed ∧
      (∀ q, lib.Refers q → lib.Endless lib.FollowedAsMeant q →
        ∃ e, Bundle.ofSchema schema o source = .error e) ∧
      ((∀ q, lib.Refers q → ¬ lib.Strays q) → ∀ e, Bundle.ofSchema schema o source = .error e →
        (∃ cycle, e = .refCycle cycle) ∨ (∃ pointer, e = .tooDeep pointer o.maxDepth) ∧
          ∃ q, lib.Refers q ∧ lib.PassesMore lib.FollowedAsMeant o.maxDepth q) := by
  rw [Bundle.ofSchema_eq]
  cases hgather : Bundle.gather schema o source with
  | error e => exact Or.inl ⟨e, rfl, rfl⟩
  | ok gathered =>
    obtain ⟨whole, sites⟩ := gathered
    obtain ⟨base, hbase, lib, hroot, rfl, h⟩ := Library.exists_of_gather hschema hsource hgather
    refine Or.inr ⟨lib, ⟨⟨base, hbase, hroot⟩, rfl, h.fetched⟩, fun p reference hplace href => ?_,
      ?_, fun hstrays e herror => ?_⟩
    · obtain ⟨q, hnamed, hfound, -⟩ := h.named hplace href
      exact ⟨q, hnamed, hfound⟩
    · rintro q ⟨p, reference, hplace, href, hnamed⟩ hendless
      obtain ⟨q', hnamed', -, t, ht, hsplit⟩ := h.named hplace href
      cases hnamed.symm.trans hnamed'
      obtain ⟨site, hsite, hspot⟩ := h.visited hplace href
      show ∃ e, sites.foldlM (Bundle.collapseSite o.maxDepth) ⟨whole, []⟩ = .error e
      cases hfold : sites.foldlM (Bundle.collapseSite o.maxDepth) ⟨whole, []⟩ with
      | error e => exact ⟨e, rfl⟩
      | ok b =>
        -- the reference would be settled at the end of its chain
        obtain ⟨-, -, hsettled⟩ := Bundle.of_foldlM_collapseSite h.keys (.same whole) hfold
        obtain ⟨old, last, hold, -, hends⟩ := hsettled site hsite
        cases ht.unique (hspot.textAt_iff.2 hold)
        exact absurd rfl (Bundle.ne_of_endsAt (h.goesOn hreserved hsplit hendless) hends 0)
    · obtain ⟨site, hsite, c, halike, htarget⟩ :=
        Bundle.exists_site_of_foldlM_eq_error h.keys (.same whole) herror
      exact (h.refCycle_or_tooDeep hreserved hstrays halike hsite htarget).imp_right
        fun ⟨he, hmore⟩ => ⟨⟨_, he⟩, hmore⟩

/-- A root that is nothing but a reference to itself. -/
def selfReference : Json := .object [("$ref", .string "#")]

/-- A root that refers to itself is refused as a cycle. -/
theorem endless_reference_refused_selfReference :
    selfReference.hasDistinctKeys = true ∧ selfReference.field? Keyword.external = none ∧
      ∃ cycle, Bundle.ofSchema selfReference {} .none = .error (.refCycle cycle) := by
  refine ⟨by decide, by decide, ?_⟩
  have hnone : ∀ uri value, DocumentSource.none.fetch uri ≠ .ok value := by
    intro uri value h
    cases h
  have hgathers : (Bundle.gather selfReference {} .none).toOption.isSome = true := by
    decide +kernel
  rcases @endless_reference_refused selfReference {} .none (by decide)
      (fun uri value h => absurd h (hnone uri value)) (by decide) with
    ⟨e, hfails, -⟩ | ⟨lib, hlib, -, hendless, hkind⟩
  · rw [hfails] at hgathers
    cases hgathers
  have hothers : lib.others = [] := by
    cases hothers : lib.others with
    | nil => rfl
    | cons d rest => exact absurd (hlib.fetched d (hothers ▸ List.mem_cons_self)) (hnone _ _)
  have hroot := hlib.root_eq rfl
  let start : Place := ⟨lib.root.text, []⟩
  have hvalue : lib.value? start = some selfReference := by
    rw [Library.value?, Library.find?_root, hlib.schema]
    rfl
  have hschema : lib.IsSchema start := ⟨_, _, Library.find?_root, .here _⟩
  have hnamed : lib.named? start "#" = some start :=
    (Library.named?_eq_some Library.find?_root).2 ⟨lib.root, "", rfl, rfl, rfl⟩
  have hfollowed : lib.FollowedAsMeant start "#" := ⟨Or.inl hschema, fun _ => hothers⟩
  have hlink : lib.Link lib.FollowedAsMeant start start :=
    ⟨selfReference, "#", hvalue, rfl, hfollowed, hnamed⟩
  -- there is no other schema, and so no other reference
  have honly : ∀ q, lib.Refers q → q = start := by
    rintro q ⟨⟨document, path⟩, reference, ⟨d, schema, hd, hat⟩, href, hq⟩
    rcases Library.eq_root_or_mem_others hd with ⟨rfl, rfl⟩ | ⟨-, hmem⟩
    · rw [hlib.schema] at hat
      cases hat with
      | here =>
        obtain rfl : "#" = reference := by
          rw [Library.reference?, hvalue] at href
          exact Option.some.inj href
        exact Option.some.inj (hq.symm.trans hnamed)
      | under hchild hleads _ =>
        rw [Dict.get?_cons] at hchild
        split at hchild
        · next heq => exact absurd heq.symm hleads.ne_ref
        · cases hchild
    · rw [hothers] at hmem
      cases hmem
  have hforever : lib.Endless lib.FollowedAsMeant start := ⟨fun _ => start, rfl, fun _ => hlink⟩
  have hrefers : lib.Refers start :=
    ⟨start, "#", hschema, by rw [Library.reference?, hvalue]; rfl, hnamed⟩
  obtain ⟨e, he⟩ := hendless start hrefers hforever
  rcases hkind (fun q hq => honly q hq ▸ hforever.not_strays) e he with
    ⟨cycle, rfl⟩ | ⟨-, q, hq, chain, h0, hlinks, hapart⟩
  · exact ⟨cycle, he⟩
  · have hdepth : 0 < ({} : Options).maxDepth := by decide
    obtain rfl := honly q hq
    have hsame := (hlinks 0 hdepth).following?_eq
    rw [h0, hlink.following?_eq] at hsame
    exact absurd (h0.trans (Option.some.inj hsame)) (hapart 0 1 Nat.one_pos hdepth)

/-- A root that is nothing but a reference to another document. -/
def bareRoot : Json := .object [("$ref", .string "other.json")]

/-- The other document: nothing but a reference back to the root. -/
def otherBare : Json := .object [("$ref", .string "schema.json")]

/-- The library of the two documents. -/
def bareLibrary : Library where
  root := defaultRoot
  schema := bareRoot
  others := [(otherUri, otherBare)]
  distinct := by decide

/-- The chain of the two documents, from the other one on. -/
def bareChain (n : Nat) : Place := ⟨if n % 2 = 0 then otherText else defaultRoot.text, []⟩

/-- **An endless chain that is not refused**: the root refers to another document, which refers
back.  Each is a bare reference where it is written, and each is followed for ever; but the root is
not bare in the bundle, which holds the other document below it. -/
theorem endless_reference_bundled_bareRoot :
    ∃ b, Bundle.ofSchema bareRoot {} (.ofDocuments [(otherText, otherBare)]) = .ok b ∧
      bareLibrary.GatheredFor bareRoot {} (.ofDocuments [(otherText, otherBare)]) ∧
      bareLibrary.IsSchema ⟨defaultRoot.text, []⟩ ∧
      bareLibrary.reference? ⟨defaultRoot.text, []⟩ = some "other.json" ∧
      bareLibrary.named? ⟨defaultRoot.text, []⟩ "other.json" = some ⟨otherText, []⟩ ∧
      bareLibrary.Endless (fun _ _ => True) ⟨otherText, []⟩ := by
  have hrun : (Bundle.ofSchema bareRoot {}
      (.ofDocuments [(otherText, otherBare)])).toOption.any (fun _ => true) = true := by
    decide +kernel
  obtain ⟨b, hb, -⟩ := exists_ok_of_any hrun
  have hbase : (({} : Options).base?).toOption.any (fun uri => uri = defaultRoot) = true := by
    decide +kernel
  obtain ⟨base, hbase, heq⟩ := exists_ok_of_any hbase
  have hforth : bareLibrary.named? ⟨defaultRoot.text, []⟩ "other.json" = some ⟨otherText, []⟩ := by
    decide +kernel
  have hback : bareLibrary.named? ⟨otherText, []⟩ "schema.json" = some ⟨defaultRoot.text, []⟩ := by
    decide +kernel
  refine ⟨b, hb, ⟨⟨base, hbase, ?_⟩, rfl, ?_⟩, ⟨_, _, Library.find?_root, .here _⟩, by decide,
    hforth, bareChain, rfl, fun n => ?_⟩
  · rw [of_decide_eq_true heq]
    decide
  · intro d hd
    cases List.mem_singleton.1 hd
    have htext : otherUri.text = otherText := by decide
    refine DocumentSource.fetch_ofDocuments.2 ?_
    rw [htext]
    rfl
  · unfold bareChain
    by_cases heven : n % 2 = 0
    · have hodd : ¬ (n + 1) % 2 = 0 := by omega
      rw [if_pos heven, if_neg hodd]
      exact ⟨otherBare, "schema.json", rfl, rfl, trivial, hback⟩
    · have hodd : (n + 1) % 2 = 0 := by omega
      rw [if_neg heven, if_pos hodd]
      exact ⟨bareRoot, "other.json", rfl, rfl, trivial, hforth⟩

end SchemaTypings
