import SchemaTypings.Proofs.BoundedArrays
import SchemaTypings.Proofs.WiderKinds

/-! # Dropping bounds widens

A cap drops bounds.  Types under a cap admit all that types without one admit, where the bounds that
are dropped were kept without the cap, and where no items go that only the bounds asked for.
-/
namespace SchemaTypings
namespace TypeGraph

open SchemaNode (Bounds DescribesItems)

/-! ### Bounded arrays that widen -/

section Tuples

variable {R : TypeId → TypeId → Prop} {elements wide : List TypeId} {min min' : Nat}
  {max max' : Option Nat} {spread spread' : Option TypeId}

theorem length_le_longestLength (elements : List TypeId) (max : Option Nat)
    (spread : Option TypeId) : elements.length ≤ longestLength elements max spread := by
  unfold longestLength
  split <;> omega

/-- A least number is in reach of the elements when the bounds are. -/
theorem le_of_getD_le {count : Nat} (hcount : max.getD min ≤ count)
    (hle : ∀ limit ∈ max, min ≤ limit) : min ≤ count := by
  cases max with
  | none => exact hcount
  | some limit => exact Nat.le_trans (hle limit rfl) hcount

/-- A bounded array that describes all elements within its bounds ends behind them. -/
theorem partAt?_of_closed {i : Nat} (hcount : max.getD min ≤ elements.length)
    (hi : elements.length ≤ i) : partAt? elements min max none i = none := by
  rw [partAt?_of_le hi]
  cases max with
  | none => exact if_neg (Nat.not_lt.2 hcount)
  | some limit => exact if_neg (Nat.not_lt.2 (Nat.le_trans hcount hi))

/-- With a spread on both sides only the least number matters. -/
theorem widens_spread {a b : TypeId} (h : List.Forall₂ R elements wide) (hab : R a b)
    (hmin : min' ≤ min) :
    Widens R (.tuple elements min max (some a)) (.tuple wide min' max' (some b)) := by
  refine widens_tuple (fun count henough => ?_) fun i => ?_
  · simp only [longestLength, Option.isNone_some, Bool.false_eq_true, if_false, h.length_eq]
      at henough ⊢
    exact henough.imp_left (Nat.le_trans hmin)
  · rcases Nat.lt_or_ge i elements.length with hlt | hge
    · exact partWidens_of_lt h hlt
    · rw [partAt?_of_le hge, partAt?_of_le (h.length_eq ▸ hge)]
      exact partWidens_of_rel hab

/-- Elements up to the largest number, which more elements may follow. -/
theorem widens_closed {more : List TypeId} (h : List.Forall₂ R elements wide)
    (hcount : max.getD min ≤ elements.length) (hle : ∀ limit ∈ max, min ≤ limit) (hmin : min' ≤ min) :
    Widens R (.tuple elements min max none) (.tuple (wide ++ more) min' max' spread') := by
  refine widens_tuple (fun count henough => Or.inl ?_) fun i => ?_
  · have hleast := le_of_getD_le hcount hle
    have hlongest := length_le_longestLength elements max none
    omega
  · rcases Nat.lt_or_ge i elements.length with hlt | hge
    · have hwide : i < wide.length := h.length_eq ▸ hlt
      rw [partAt?_of_lt hlt, partAt?_of_lt (by rw [List.length_append]; omega),
        List.getElem_append_left hwide]
      exact partWidens_of_rel (h.get hlt hwide)
    · rw [partAt?_of_closed hcount hge]
      exact partWidens_of_none _

/-- Elements before others that are needed but not described. -/
theorem widens_open (h : List.Forall₂ R elements wide) (hopen : wide.length < min')
    (hmin : min' ≤ min) :
    Widens R (.tuple elements min max none) (.tuple wide min' none none) := by
  refine widens_tuple (fun count henough => ?_) fun i => ?_
  · have hlongest := length_le_longestLength elements max none
    have hlength : longestLength wide none none = wide.length := by simp [longestLength]
    have hsame := h.length_eq
    omega
  · rcases Nat.lt_or_ge i elements.length with hlt | hge
    · exact partWidens_of_lt h hlt
    · have hbehind : wide.length ≤ i := h.length_eq ▸ hge
      rw [partAt?_of_le hbehind]
      dsimp only
      rw [if_pos hopen]
      exact partWidens_free _

end Tuples

/-! ### Arrays of items of one schema -/

/-- **An array all of whose parts are alike**, as the bounds ask for. -/
inductive IsFilled (A : TypeId → Prop) : Bounds → TypeKind → Prop where
  | array {element : TypeId} (h : A element) : IsFilled A ⟨0, none⟩ (.array element)
  | tuple {b : Bounds} {elements : List TypeId} {spread : Option TypeId}
      (hbounds : b ≠ ⟨0, none⟩) (helements : ∀ a ∈ elements, A a) (hspread : ∀ a ∈ spread, A a)
      (hcount : b.max.getD b.min ≤ elements.length) (hopen : b.max = none → spread.isSome) :
      IsFilled A b (.tuple elements b.min b.max spread)

section Filled

variable {R : TypeId → TypeId → Prop} {A B : TypeId → Prop}

/-- The parts of such an array. -/
theorem exists_of_mem_partAt? {elements : List TypeId} {min : Nat} {max : Option Nat}
    {spread : Option TypeId} (helements : ∀ a ∈ elements, A a) (hspread : ∀ a ∈ spread, A a)
    (hcount : max.getD min ≤ elements.length) {i : Nat} {part : Option TypeId}
    (h : part ∈ partAt? elements min max spread i) : ∃ a ∈ part, A a := by
  rcases Nat.lt_or_ge i elements.length with hlt | hge
  · rw [partAt?_of_lt hlt] at h
    cases h
    exact ⟨_, rfl, helements _ (List.getElem_mem hlt)⟩
  · cases spread with
    | some a =>
      rw [partAt?_of_le hge] at h
      cases h
      exact ⟨a, rfl, hspread a rfl⟩
    | none =>
      rw [partAt?_of_closed hcount hge] at h
      cases h

/-- **Without a largest number, and with no greater least one, such an array admits more.** -/
theorem IsFilled.widens {b b' : Bounds} {kind wide : TypeKind} (hab : ∀ a b, A a → B b → R a b)
    (h : IsFilled A b kind) (h' : IsFilled B b' wide) (hle : ∀ limit ∈ b.max, b.min ≤ limit)
    (hmin : b'.min ≤ b.min) (hmax : b'.max = none) : Widens R kind wide := by
  cases h with
  | array ha =>
    cases h' with
    | array hb => exact widens_array (hab _ _ ha hb)
    | tuple hbounds =>
      obtain ⟨least, _⟩ := b'
      cases hmax
      cases Nat.le_zero.1 hmin
      exact absurd rfl hbounds
  | @tuple _ elements spread hbounds helements hspread hcount hopen =>
    have hparts : ∀ i, ∀ part ∈ partAt? elements b.min b.max spread i, ∃ a ∈ part, A a :=
      fun _ _ hpart => exists_of_mem_partAt? helements hspread hcount hpart
    cases h' with
    | array hb =>
      refine widens_array_of_tuple fun i part hpart => ?_
      obtain ⟨a, ha, hA⟩ := hparts i part hpart
      exact ⟨a, ha, hab a _ hA hb⟩
    | @tuple _ wideElements wideSpread _ hwide hwideSpread _ hwideOpen =>
      obtain ⟨s, rfl⟩ := Option.isSome_iff_exists.1 (hwideOpen hmax)
      refine widens_tuple (fun count henough => Or.inl ?_) fun i part hpart => ?_
      · have hleast := le_of_getD_le hcount hle
        have hlongest := length_le_longestLength elements b.max spread
        omega
      · obtain ⟨a, ha, hA⟩ := hparts i part hpart
        cases ha
        rcases Nat.lt_or_ge i wideElements.length with hlt | hge
        · rw [partAt?_of_lt hlt]
          exact partWidens_of_rel (hab a _ hA (hwide _ (List.getElem_mem hlt))) _ rfl
        · rw [partAt?_of_le hge]
          exact partWidens_of_rel (hab a s hA (hwideSpread s rfl)) _ rfl

end Filled

/-! ### Kinds of arrays -/

section Kinds

variable {s t : Growth} {o : Options} {n m m' : SchemaNode} {b b' : Bounds} {kind : TypeKind}

/-- The same items within the same bounds. -/
theorem arraysWiden_same (h : DescribesItems b n m) (h' : DescribesItems b n m') :
    ArraysWiden s t o m m' := by
  intro kind wide hkind hwide
  unfold IsArrayKind at hkind hwide
  rw [h.items, h.further, h.min_eq, h.max_eq] at hkind
  rw [h'.items, h'.further, h'.min_eq, h'.max_eq] at hwide
  generalize b.further n.items n.additionalItems = further at hkind hwide
  cases hitems : b.items n.items with
  | none =>
    rw [hitems] at hkind hwide
    obtain ⟨any, hany, rfl⟩ := hkind
    obtain ⟨wideAny, hwide, rfl⟩ := hwide
    have hpaired : Paired s t any wideAny := Or.inr ⟨hany, hwide⟩
    split
    · refine widens_sameTuple (List.forall₂_iff_get.2 ⟨by simp, fun i _ _ => by simpa⟩) ?_
      split
      · exact .some hpaired
      · exact .none
    · exact widens_array hpaired
  | some items =>
    rw [hitems] at hkind hwide
    cases items with
    | each item =>
      obtain ⟨element, helement, rfl⟩ := hkind
      obtain ⟨wide, hwide, rfl⟩ := hwide
      exact widens_array (Or.inl ⟨item, helement, hwide⟩)
    | tuple ids =>
      obtain ⟨elements, spread, helements, hspread, rfl⟩ := hkind
      obtain ⟨wide, wideSpread, hwide, hwideSpread, rfl⟩ := hwide
      have hpaired := paired_of_assignsAll helements hwide
      rw [hpaired.length_eq]
      split <;> exact widens_sameTuple hpaired (hspread.paired hwideSpread)

/-- Without `items` all parts are the placeholder. -/
theorem isFilled_of_none (h : DescribesItems b n m) (ho : o.ignoreItemBounds = false)
    (hn : n.items = none) (hkind : IsArrayKind s o m kind) :
    IsFilled (fun a => s.placeholder = some a) b kind := by
  unfold IsArrayKind at hkind
  rw [h.items, hn, h.min_eq, h.max_eq, ho] at hkind
  obtain ⟨any, hany, rfl⟩ := hkind
  split
  · next hbounds =>
    refine .tuple ?_ (fun a ha => ?_) (fun a ha => ?_) ?_ fun hnone => ?_
    · rintro rfl
      simp at hbounds
    · rw [List.eq_of_mem_replicate ha]
      exact hany
    · split at ha
      · cases ha
        exact hany
      · cases ha
    · rw [List.length_replicate]
      cases b.max with
      | none => exact Nat.le_max_right _ _
      | some limit => exact Nat.le_max_left _ _
    · simp [hnone]
  · next hfree =>
    have hunbounded : ¬ (b.max.isSome = true ∨ 0 < b.min) := by simpa [and_comm] using hfree
    rw [Bounds.eq_of_unbounded hunbounded]
    exact .array hany

/-- With one schema for all items, so are all parts, if no others are described behind a largest
number. -/
theorem isFilled_of_each (h : DescribesItems b n m) (ho : o.ignoreItemBounds = false)
    {item : SchemaId} (hn : n.items = some (.each item))
    (hfurther : b.max = none ∨ n.describesFurther = false) (hkind : IsArrayKind s o m kind) :
    IsFilled (s.Assigns item) b kind := by
  unfold IsArrayKind at hkind
  have hitems := h.items
  have hrest := h.further
  rw [hn] at hitems hrest
  unfold Bounds.items at hitems
  unfold Bounds.further at hrest
  dsimp only at hitems hrest
  rw [hitems, hrest, h.min_eq, h.max_eq, ho] at hkind
  by_cases hbounded : b.max.isSome = true ∨ 0 < b.min
  · rw [if_pos hbounded] at hkind
    obtain ⟨elements, spread, helements, hspread, rfl⟩ := hkind
    have hlength := helements.length_eq
    rw [List.length_replicate] at hlength
    rw [if_neg (by simp)]
    have hpart : (∀ a ∈ spread, s.Assigns item a) ∧ (b.max = none → spread.isSome) := by
      cases hmax : b.max with
      | none =>
        have hmin : 0 < b.min := hbounded.resolve_left (by simp [hmax])
        rw [if_pos (by simp [hmax, hmin])] at hspread
        obtain ⟨a, ha, rfl⟩ := hspread
        refine ⟨?_, fun _ => rfl⟩
        rintro _ ⟨⟩
        exact ha
      | some limit =>
        have hnone : spread.isSome = false := by
          rw [if_neg (by simp [hmax])] at hspread
          rw [hspread.isSome]
          exact hfurther.resolve_left (by simp [hmax])
        cases spread with
        | none => exact ⟨by rintro a ⟨⟩, by rintro ⟨⟩⟩
        | some a => cases hnone
    refine .tuple ?_ (fun a ha => ?_) hpart.1 (Nat.le_of_eq hlength) hpart.2
    · rintro rfl
      simp at hbounded
    · obtain ⟨schema, hschema, hassigns⟩ := exists_left_of_forall₂ helements a ha
      exact List.eq_of_mem_replicate hschema ▸ hassigns
  · rw [if_neg hbounded] at hkind
    obtain ⟨element, helement, rfl⟩ := hkind
    rw [Bounds.eq_of_unbounded hbounded]
    exact .array helement

/-- With a list of items the parts are those of the list, up to a largest number. -/
theorem exists_tuple_of_list (h : DescribesItems b n m) (ho : o.ignoreItemBounds = false)
    {ids : List SchemaId} (hn : n.items = some (.tuple ids)) (hkind : IsArrayKind s o m kind) :
    ∃ elements spread, s.AssignsAll (ids.take (b.max.getD ids.length)) elements ∧
      IsFurther s n.additionalItems spread ∧ kind = .tuple elements b.min b.max spread := by
  have htake : b.items n.items = some (.tuple (ids.take (b.max.getD ids.length))) := by
    rw [hn, Bounds.items]
    cases b.max <;> simp
  have hfurther : b.further n.items n.additionalItems = n.additionalItems := by
    rw [hn]
    rfl
  unfold IsArrayKind at hkind
  rw [h.items, htake, h.further, hfurther, h.min_eq, h.max_eq, ho] at hkind
  exact hkind

/-- A list of items keeps what it admits without its bounds, where it is as long as they ask for. -/
theorem arraysWiden_of_list (h : DescribesItems b n m) (h' : DescribesItems b' n m')
    (ho : o.ignoreItemBounds = false) {ids : List SchemaId} (hn : n.items = some (.tuple ids))
    (hle : ∀ limit ∈ b.max, b.min ≤ limit) (hmin : b'.min ≤ b.min) (hmax : b'.max = none)
    (hkept : if n.describesFurther then ∀ limit ∈ b.max, ids.length ≤ limit
      else b.max.getD b.min ≤ ids.length ∨ ids.length < b'.min) :
    ArraysWiden s t o m m' := by
  intro kind wideKind hkind hwideKind
  obtain ⟨elements, spread, helements, hspread, rfl⟩ := exists_tuple_of_list h ho hn hkind
  obtain ⟨wide, wideSpread, hwide, hwideSpread, rfl⟩ := exists_tuple_of_list h' ho hn hwideKind
  rw [hmax, Option.getD_none, List.take_length] at hwide
  rw [hmax]
  have hlength : elements.length = Nat.min (b.max.getD ids.length) ids.length :=
    helements.length_eq.symm.trans List.length_take
  have hwhole : (∀ limit ∈ b.max, ids.length ≤ limit) → ids.take (b.max.getD ids.length) = ids := by
    intro hfits
    refine List.take_of_length_le ?_
    cases hb : b.max with
    | none => exact Nat.le_refl _
    | some limit => exact hfits limit hb
  cases hdescribes : n.describesFurther with
  | true =>
    rw [if_pos hdescribes] at hkept
    rw [hwhole hkept] at helements
    have hsome : spread.isSome = true := hspread.isSome.trans hdescribes
    cases hspread.paired hwideSpread with
    | none => cases hsome
    | some hab => exact widens_spread (paired_of_assignsAll helements hwide) hab hmin
  | false =>
    rw [if_neg (by simp [hdescribes])] at hkept
    have hnone : spread.isSome = false := hspread.isSome.trans hdescribes
    cases hspread.paired hwideSpread with
    | some => cases hnone
    | none =>
      rcases hkept with hlong | hopen
      · -- the arrays end where the largest number cut the list
        rw [← List.take_append_drop (b.max.getD ids.length) wide]
        refine widens_closed (paired_of_assignsAll helements (List.forall₂_take _ hwide)) ?_ hle hmin
        rw [hlength]
        cases hb : b.max with
        | none =>
          rw [hb] at hlong
          exact Nat.le_min.2 ⟨hlong, hlong⟩
        | some limit =>
          rw [hb] at hlong
          exact Nat.le_min.2 ⟨Nat.le_refl _, hlong⟩
      · -- the elements behind the list stay open
        have hfits : ∀ limit ∈ b.max, ids.length ≤ limit := by
          intro limit hlimit
          have := hle limit hlimit
          omega
        rw [hwhole hfits] at helements
        exact widens_open (paired_of_assignsAll helements hwide) (hwide.length_eq ▸ hopen) hmin

end Kinds

end TypeGraph

namespace SchemaNode

/-! ### Bounds that a cap drops -/

/-- **Items that lose nothing with their bounds**, of which `kept` is left: further items behind one
schema for all are not bound to a largest number; a list with further items does not go beyond the
largest number; and a list without is as long as the bounds ask for, or shorter than the least number
that is left. -/
def losesNothing (kept : Bounds) (n : SchemaNode) : Bool :=
  match n.items with
  | none => true
  | some (.each _) => n.bounds.max.isNone || !n.describesFurther
  | some (.tuple ids) =>
    if n.describesFurther then n.bounds.max.all fun limit => ids.length ≤ limit
    else n.bounds.max.getD n.bounds.min ≤ ids.length || ids.length < kept.min

/-- **Bounds that a cap loosens.**  It leaves what is left without a cap; or the bounds are not too
long to spell out, so that without a cap they are kept, and the items lose nothing with those that
the cap drops. -/
def LoosensUnder (o : Options) (cap : Int) (n : SchemaNode) : Prop :=
  n.leftBounds (o.withCap cap) = n.leftBounds (o.withCap (-1)) ∨
    (n.bounds.max.getD n.bounds.min ≤ tupleLimit ∧ n.losesNothing (n.bounds.capped cap) = true)

instance (o : Options) (cap : Int) (n : SchemaNode) : Decidable (n.LoosensUnder o cap) :=
  inferInstanceAs (Decidable (_ ∨ (_ ∧ _)))

/-- Bounds that are changed have no largest number and no greater least one. -/
theorem Bounds.capped_of_ne {b : Bounds} {cap : Int} (h : b.capped cap ≠ b) :
    (b.capped cap).max = none ∧ (b.capped cap).min ≤ b.min := by
  refine ⟨(b.capped_eq_or cap).resolve_left h, ?_⟩
  rcases b.capped_min cap with hmin | hfree
  · exact Nat.le_of_eq hmin
  · rw [hfree]
    exact Nat.zero_le _

end SchemaNode

namespace TypeGraph

open SchemaNode (Bounds DescribesItems)

section Caps

variable {s t : Growth} {o : Options} {n m m' : SchemaNode}

/-- Kinds of arrays widen when items lose nothing with the bounds that go. -/
theorem arraysWiden_of_losesNothing {kept : Bounds} (h : DescribesItems n.bounds n m)
    (h' : DescribesItems kept n m') (ho : o.ignoreItemBounds = false)
    (hle : ∀ limit ∈ n.bounds.max, n.bounds.min ≤ limit) (hmin : kept.min ≤ n.bounds.min)
    (hmax : kept.max = none) (hloses : n.losesNothing kept = true) : ArraysWiden s t o m m' := by
  unfold SchemaNode.losesNothing at hloses
  cases hitems : n.items with
  | none =>
    intro kind wide hkind hwide
    refine (isFilled_of_none h ho hitems hkind).widens ?_ (isFilled_of_none h' ho hitems hwide)
      hle hmin hmax
    exact fun a b ha hb => Or.inr ⟨ha, hb⟩
  | some items =>
    rw [hitems] at hloses
    cases items with
    | each item =>
      intro kind wide hkind hwide
      refine (isFilled_of_each h ho hitems (by simpa using hloses) hkind).widens ?_
        (isFilled_of_each h' ho hitems (Or.inl hmax) hwide) hle hmin hmax
      exact fun a b ha hb => Or.inl ⟨item, ha, hb⟩
    | tuple ids =>
      refine arraysWiden_of_list h h' ho hitems hle hmin hmax ?_
      dsimp only at hloses
      split at hloses
      · next hdescribes =>
        rw [if_pos hdescribes]
        intro limit hlimit
        rw [show n.bounds.max = some limit from hlimit] at hloses
        simpa using hloses
      · next hnone =>
        rw [if_neg hnone]
        simpa using hloses

/-- **Kinds of arrays widen under a cap** that loosens bounds. -/
theorem arraysWiden_normalize {cap : Int} (isRoot : Bool) (hloosens : n.LoosensUnder o cap)
    (hle : ∀ limit ∈ n.bounds.max, n.bounds.min ≤ limit) :
    ArraysWiden s t o (n.normalize (o.withCap (-1)) isRoot)
      (n.normalize (o.withCap cap) isRoot) := by
  have h := SchemaNode.describesItems_normalize (o.withCap (-1)) isRoot n
  have h' := SchemaNode.describesItems_normalize (o.withCap cap) isRoot n
  by_cases hsame : n.leftBounds (o.withCap cap) = n.leftBounds (o.withCap (-1))
  · rw [hsame] at h'
    exact arraysWiden_same h h'
  · obtain ⟨hshort, hloses⟩ := hloosens.resolve_left hsame
    -- the cap only matters to arrays whose bounds are not ignored
    have hn : n.isArrayShaped = true := by
      by_contra hplain
      exact hsame (by simp [SchemaNode.leftBounds, hplain])
    have ho : o.ignoreItemBounds = false := by
      by_contra hignore
      rw [Bool.not_eq_false] at hignore
      exact hsame (by simp [SchemaNode.leftBounds, Options.withCap, hn, hignore])
    have hleft : ∀ c, n.leftBounds (o.withCap c) = n.bounds.capped c :=
      fun c => SchemaNode.leftBounds_of_kept hn ho
    have hwritten : n.bounds.capped (-1) = n.bounds := by
      rw [Bounds.capped_uncapped, if_neg (Nat.not_lt.2 hshort)]
    rw [hleft, hwritten] at h
    rw [hleft] at h'
    rw [hleft, hleft, hwritten] at hsame
    obtain ⟨hmax, hmin⟩ := Bounds.capped_of_ne hsame
    exact arraysWiden_of_losesNothing h h' ho hle hmin hmax hloses

end Caps

/-! ### Types under two caps -/

section Graphs

variable {g g' : SchemaGraph} {o : Options} {c c' : Int}

/-- **Types of schemas admit more** where the kinds of arrays that they are made of widen. -/
theorem values_subset_of_arraysWiden (hroot : g.root < g.size)
    (hg : ∀ id, ∀ part ∈ g.children id, part < g.size) (hroot' : g'.root < g'.size)
    (hg' : ∀ id, ∀ part ∈ g'.children id, part < g'.size)
    (hsaid : g'.withoutItems = g.withoutItems)
    (hshaped : ∀ id, (g'.node id).isArrayShaped = (g.node id).isArrayShaped) {type wide : TypeId}
    (hpaired : Paired (made g (o.withCap c)) (made g' (o.withCap c')) type wide)
    (harrays : ∀ schema part, (ofSchema g (o.withCap c)).MadeOf type part →
      (made g (o.withCap c)).Assigns schema part →
        ArraysWiden (made g (o.withCap c)) (made g' (o.withCap c')) o (g.node schema)
          (g'.node schema)) :
    (ofSchema g (o.withCap c)).values type ⊆ (ofSchema g' (o.withCap c')).values wide := by
  -- parts of a kind may be unnamed, and so may their parts, but no deeper ones
  let R : TypeId → TypeId → Prop := WithParts (made g (o.withCap c)) (made g' (o.withCap c'))
    (WithParts (made g (o.withCap c)) (made g' (o.withCap c'))
      (Paired (made g (o.withCap c)) (made g' (o.withCap c'))))
  refine values_subset_values (R := R) ?_ (Or.inl (Or.inl hpaired))
  rintro part wide hpart ((hpaired | ⟨kind, wideKind, hkind, hwide, hwidens⟩) |
    ⟨kind, wideKind, hkind, hwide, hwidens⟩)
  · rcases hpaired with ⟨schema, hs, ht⟩ | ⟨hs, ht⟩
    · -- kinds that schemas ask for do not depend on the cap
      have hkind : IsKind _ g o schema _ := isKind_of_assigns (o := o.withCap c) hroot hg hs
      have hwide : IsKind _ g' o schema _ := isKind_of_assigns (o := o.withCap c') hroot' hg' ht
      exact hkind.widens hsaid (harrays schema part hpart hs) (hshaped schema) hwide
    · rw [kind_of_placeholder hroot hg hs, kind_of_placeholder hroot' hg' ht]
      exact widens_placeholder o
  · rw [kind_of_hasPart hkind, kind_of_hasPart hwide]
    exact hwidens.withParts.withParts
  · rw [kind_of_hasPart hkind, kind_of_hasPart hwide]
    exact hwidens.withParts

end Graphs

end TypeGraph

namespace SchemaGraph

/-- What is made of a graph under a cap. -/
def madeUnder (g : SchemaGraph) (name : String) (o : Options) (cap : Int) : TypeGraph.Growth :=
  TypeGraph.made (g.normalize name (o.withCap cap)) (o.withCap cap)

/-- The types of a graph under a cap. -/
def typesUnder (g : SchemaGraph) (name : String) (o : Options) (cap : Int) : TypeGraph :=
  TypeGraph.ofSchema (g.normalize name (o.withCap cap)) (o.withCap cap)

variable {g : SchemaGraph} {o : Options} {name : String} {id : SchemaId}

/-- There is nothing behind the schemas of a normal graph. -/
theorem node_normalize_of_size_le (name : String) (o : Options) (h : g.size ≤ id) :
    (g.normalize name o).node id = { pointer := "" } := by
  have hrenames : Renames (g.normalizeNodes o) (g.normalize name o) :=
    renames_assignNames name (g.normalizeNodes o)
  rw [← size_normalizeNodes o, ← hrenames.size] at h
  rw [node, Array.getElem?_eq_none h]
  rfl

/-- Bounds leave arrays arrays. -/
theorem isArrayShaped_node_normalize (name : String) (o : Options) (id : SchemaId) :
    ((g.normalize name o).node id).isArrayShaped = (g.node id).isArrayShaped := by
  rcases Nat.lt_or_ge id g.size with hlt | hge
  · rw [node_normalize name o hlt, SchemaNode.isArrayShaped_named,
      SchemaNode.isArrayShaped_normalize]
  · rw [node_normalize_of_size_le name o hge, node, Array.getElem?_eq_none hge]
    rfl

open TypeGraph in
/-- Kinds of arrays widen in normal graphs without violations. -/
theorem arraysWiden_node_normalize {s t : Growth} {cap : Int} (hviolations : g.violations name = [])
    (hloosens : (g.node id).LoosensUnder o cap) :
    ArraysWiden s t o ((g.normalize name (o.withCap (-1))).node id)
      ((g.normalize name (o.withCap cap)).node id) := by
  have hnamed : ∀ {n m : SchemaNode} (x y : Option String), ArraysWiden s t o n m →
      ArraysWiden s t o { n with standaloneName := x } { m with standaloneName := y } :=
    fun _ _ h => h
  rcases Nat.lt_or_ge id g.size with hlt | hge
  · rw [node_normalize name (o.withCap (-1)) hlt, node_normalize name (o.withCap cap) hlt]
    exact hnamed _ _ (arraysWiden_normalize _ hloosens (bounds_le hviolations hlt))
  · rw [node_normalize_of_size_le name _ hge, node_normalize_of_size_le name _ hge]
    exact arraysWiden_same (n := { pointer := "" }) (b := ⟨0, none⟩) ⟨rfl, rfl, rfl⟩ ⟨rfl, rfl, rfl⟩

end SchemaGraph

/-- Linking does not look at the cap. -/
theorem linkedGraph_withCap (schema : Json) (o : Options) (source : DocumentSource) (cap : Int) :
    linkedGraph schema (o.withCap cap) source = linkedGraph schema o source := rfl

/-- An array of one to three texts. -/
def fewTexts : Json :=
  .object [("type", .string "array"), ("items", .object [("type", .string "string")]),
    ("minItems", .ofNat 1), ("maxItems", .ofNat 3)]

/-- An array of texts that is not empty, with a largest number that is too long to spell out. -/
def manyTexts : Json :=
  .object [("type", .string "array"), ("items", .object [("type", .string "string")]),
    ("minItems", .ofNat 1), ("maxItems", .ofNat 2000)]

/-- The root is an array of any length. -/
def TypeGraph.isPlainList (t : TypeGraph) : Bool :=
  match t.kind t.root with
  | .array _ => true
  | _ => false

/-- The root is an array that is not empty. -/
def TypeGraph.isFilledList (t : TypeGraph) : Bool :=
  match t.kind t.root with
  | .tuple [_] 1 none (some _) => true
  | _ => false

theorem TypeGraph.nil_mem_values_of_isPlainList {t : TypeGraph} (h : t.isPlainList = true) :
    Json.array [] ∈ t.values t.root := by
  unfold isPlainList at h
  split at h
  · next element hroot =>
    rw [← meaning_values, meaning, hroot]
    exact ⟨[], rfl, List.forall_mem_nil _⟩
  · cases h

theorem TypeGraph.nil_not_mem_values_of_isFilledList {t : TypeGraph} (h : t.isFilledList = true) :
    Json.array [] ∉ t.values t.root := by
  unfold isFilledList at h
  split at h
  · next first spread hroot =>
    rw [← meaning_values, meaning, hroot]
    intro hmem
    obtain ⟨items, hitems, henough, -⟩ := mem_kindValues_tuple.1 hmem
    cases hitems
    rw [length_slotsOf] at henough
    simp [longestLength] at henough
  · cases h

end SchemaTypings
