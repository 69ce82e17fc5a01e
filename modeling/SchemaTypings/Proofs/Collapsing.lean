import SchemaTypings.Proofs.Pointers
import SchemaTypings.Proofs.Stateful

/-! # Collapsing keeps where chains end

Collapsing goes over the references of a bundle and points each at the end of its chain.  A document
whose texts are changed in this way is `Alike` the one before, and a chain ends in it where it ended
before: what was skipped are only references on the way.
-/
namespace SchemaTypings
namespace Bundle

/-- **Documents that are the same up to texts**, where a text may stand for one related to it. -/
inductive Alike (T : String → String → Prop) : Json → Json → Prop
  | same (value : Json) : Alike T value value
  | text {t t' : String} (h : T t t') : Alike T (.string t) (.string t')
  | array {xs ys : List Json} (h : List.Forall₂ (Alike T) xs ys) : Alike T (.array xs) (.array ys)
  | object {xs ys : Dict Json} (hkeys : xs.keys = ys.keys)
      (h : List.Forall₂ (Alike T) xs.values ys.values) : Alike T (.object xs) (.object ys)

variable {T : String → String → Prop}

/-- Values under one key are alike. -/
theorem rel_get? {xs ys : Dict Json} (hkeys : xs.keys = ys.keys)
    (h : List.Forall₂ (Alike T) xs.values ys.values) (key : String) :
    Option.Rel (Alike T) (xs.get? key) (ys.get? key) := by
  induction xs generalizing ys with
  | nil =>
    cases ys with
    | nil => exact .none
    | cons entry ys => cases hkeys
  | cons x xs ih =>
    cases ys with
    | nil => cases hkeys
    | cons y ys =>
      obtain ⟨hkey, hrest⟩ := List.cons.inj hkeys
      cases h with
      | cons hxy h =>
        obtain ⟨k, v⟩ := x
        obtain ⟨k', v'⟩ := y
        replace hkey : k = k' := hkey
        subst hkey
        rw [Dict.get?_cons, Dict.get?_cons]
        split
        · exact .some hxy
        · exact ih hrest h

/-- Items of one position are alike. -/
theorem rel_getElem? {xs ys : List Json} (h : List.Forall₂ (Alike T) xs ys) (i : Nat) :
    Option.Rel (Alike T) xs[i]? ys[i]? := by
  induction h generalizing i with
  | nil => exact .none
  | cons hxy _ ih =>
    cases i with
    | zero => exact .some hxy
    | succ i => exact ih i

theorem Option.rel_refl {α : Type} {R : α → α → Prop} (h : ∀ a, R a a) (a : Option α) :
    Option.Rel R a a := by
  cases a with
  | none => exact .none
  | some a => exact .some (h a)

namespace Alike

/-- One step from alike values leads to alike values. -/
theorem step? {v w : Json} (h : Alike T v w) (segment : String) :
    Option.Rel (Alike T) (Pointer.step? v segment) (Pointer.step? w segment) := by
  cases h with
  | same => exact Option.rel_refl same _
  | text => exact .none
  | array h =>
    simp only [Pointer.step?]
    cases Pointer.index? segment with
    | none => exact .none
    | some i => exact rel_getElem? h i
  | object hkeys h => exact rel_get? hkeys h segment

/-- **The same path leads to alike values.** -/
theorem follow? {v w : Json} (h : Alike T v w) (path : List String) :
    Option.Rel (Alike T) (Pointer.follow? v path) (Pointer.follow? w path) := by
  induction path generalizing v w with
  | nil => exact .some h
  | cons segment path ih =>
    rw [Pointer.follow?, Pointer.follow?]
    have hstep := h.step? segment
    generalize Pointer.step? v segment = v' at hstep ⊢
    generalize Pointer.step? w segment = w' at hstep ⊢
    cases hstep with
    | none => exact .none
    | some hnext => exact ih hnext

theorem exists_follow? {v w next : Json} (h : Alike T v w) {path : List String}
    (hpath : Pointer.follow? v path = some next) :
    ∃ next', Pointer.follow? w path = some next' ∧ Alike T next next' := by
  have hrel := h.follow? path
  rw [hpath] at hrel
  generalize Pointer.follow? w path = w' at hrel ⊢
  cases hrel with
  | some hnext => exact ⟨_, rfl, hnext⟩

theorem exists_follow?_left {v w next : Json} (h : Alike T v w) {path : List String}
    (hpath : Pointer.follow? w path = some next) :
    ∃ next', Pointer.follow? v path = some next' ∧ Alike T next' next := by
  have hrel := h.follow? path
  rw [hpath] at hrel
  generalize Pointer.follow? v path = v' at hrel ⊢
  cases hrel with
  | some hnext => exact ⟨_, rfl, hnext⟩

/-- A text is alike to itself and to what is related to it. -/
theorem text_right {t : String} {w : Json} (h : Alike T (.string t) w) :
    ∃ t', w = .string t' ∧ (t' = t ∨ T t t') := by
  cases h with
  | same => exact ⟨t, rfl, Or.inl rfl⟩
  | text h => exact ⟨_, rfl, Or.inr h⟩

theorem text_left {t : String} {v : Json} (h : Alike T v (.string t)) :
    ∃ t', v = .string t' ∧ (t = t' ∨ T t' t) := by
  cases h with
  | same => exact ⟨t, rfl, Or.inl rfl⟩
  | text h => exact ⟨_, rfl, Or.inr h⟩

theorem object_right {xs : Dict Json} {w : Json} (h : Alike T (.object xs) w) :
    ∃ ys : Dict Json, w = .object ys ∧ xs.keys = ys.keys ∧
      List.Forall₂ (Alike T) xs.values ys.values := by
  cases h with
  | same => exact ⟨xs, rfl, rfl, List.forall₂_same.2 fun v _ => same v⟩
  | object hkeys h => exact ⟨_, rfl, hkeys, h⟩

theorem array_right {xs : List Json} {w : Json} (h : Alike T (.array xs) w) :
    ∃ ys, w = .array ys ∧ List.Forall₂ (Alike T) xs ys := by
  cases h with
  | same => exact ⟨xs, rfl, List.forall₂_same.2 fun v _ => same v⟩
  | array h => exact ⟨_, rfl, h⟩

/-- Documents stay alike under a relation that holds of more texts. -/
theorem mono {U : String → String → Prop} (hle : ∀ t t', T t t' → U t t') {v w : Json}
    (h : Alike T v w) : Alike U v w :=
  @Alike.rec T (fun v w _ => Alike U v w) (fun vs ws _ => List.Forall₂ (Alike U) vs ws) same
    (fun ht => text (hle _ _ ht)) (fun _ ih => array ih) (fun hkeys _ ih => object hkeys ih) .nil
    (fun _ _ hfirst hrest => .cons hfirst hrest) v w h

/-- What is alike is so in both directions. -/
theorem symm {v w : Json} (h : Alike T v w) : Alike (fun t t' => T t' t) w v :=
  @Alike.rec T (fun v w _ => Alike (fun t t' => T t' t) w v)
    (fun vs ws _ => List.Forall₂ (Alike fun t t' => T t' t) ws vs) same
    (fun ht => text ht) (fun _ ih => array ih) (fun hkeys _ ih => object hkeys.symm ih) .nil
    (fun _ _ hfirst hrest => .cons hfirst hrest) v w h

/-- Texts do not matter for keys. -/
theorem hasDistinctKeys {v w : Json} (h : Alike T v w) (hv : v.hasDistinctKeys = true) :
    w.hasDistinctKeys = true :=
  match v, h with
  | .object xs, h => by
    obtain ⟨ys, rfl, hkeys, hvalues⟩ := h.object_right
    obtain ⟨hnodup, hentries⟩ := Json.hasDistinctKeys_object.1 hv
    refine Json.hasDistinctKeys_object.2 ⟨hkeys ▸ hnodup, fun entry hentry => ?_⟩
    obtain ⟨x, hx, halike⟩ := exists_left_of_forall₂ hvalues entry.2
      (List.mem_map.2 ⟨entry, hentry, rfl⟩)
    obtain ⟨other, hother, rfl⟩ := List.mem_map.1 hx
    have hlt : sizeOf other.2 < sizeOf (Json.object xs) := by
      have := List.sizeOf_lt_of_mem hother
      have : sizeOf other = 1 + sizeOf other.1 + sizeOf other.2 := by cases other; rfl
      simp only [Json.object.sizeOf_spec]
      omega
    exact halike.hasDistinctKeys (hentries other hother)
  | .array xs, h => by
    obtain ⟨ys, rfl, hitems⟩ := h.array_right
    refine Json.itemsHaveDistinctKeys_iff.2 fun y hy => ?_
    obtain ⟨x, hx, halike⟩ := exists_left_of_forall₂ hitems y hy
    have hlt : sizeOf x < sizeOf (Json.array xs) := by
      have := List.sizeOf_lt_of_mem hx
      simp only [Json.array.sizeOf_spec]
      omega
    exact halike.hasDistinctKeys (Json.itemsHaveDistinctKeys_iff.1 hv x hx)
  | .string t, h => by
    obtain ⟨t', rfl, -⟩ := h.text_right
    rfl
  | .null, h => by cases h; rfl
  | .bool _, h => by cases h; rfl
  | .number _, h => by cases h; rfl
termination_by sizeOf v
decreasing_by all_goals exact hlt

/-- What is alike a bare reference is one, to a related target. -/
theorem bareRef?_right {v w : Json} {target : String} (h : Alike T v w)
    (hbare : bareRef? v = some target) :
    ∃ target', bareRef? w = some target' ∧ (target' = target ∨ T target target') := by
  rw [bareRef?_eq_some] at hbare
  subst hbare
  cases h with
  | same => exact ⟨target, bareRef?_eq_some.2 rfl, Or.inl rfl⟩
  | @object xs ys hkeys h =>
    obtain ⟨entry, rfl⟩ : ∃ entry, ys = [entry] := by
      cases ys with
      | nil => cases hkeys
      | cons entry ys =>
        cases ys with
        | nil => exact ⟨entry, rfl⟩
        | cons other ys => cases (List.cons.inj hkeys).2
    obtain ⟨key, value⟩ := entry
    have hkey : Keyword.ref = key := (List.cons.inj hkeys).1
    subst hkey
    cases h with
    | cons hvalue _ =>
      obtain ⟨target', hvalue', hrelated⟩ := text_right hvalue
      replace hvalue' : value = .string target' := hvalue'
      subst hvalue'
      exact ⟨target', bareRef?_eq_some.2 rfl, hrelated⟩

theorem bareRef?_left {v w : Json} {target : String} (h : Alike T v w)
    (hbare : bareRef? w = some target) :
    ∃ target', bareRef? v = some target' ∧ (target' = target ∨ T target' target) :=
  h.symm.bareRef?_right hbare

theorem bareRef?_eq_none {v w : Json} (h : Alike T v w) :
    bareRef? v = none ↔ bareRef? w = none := by
  constructor
  · intro hv
    cases hw : bareRef? w with
    | none => rfl
    | some target =>
      obtain ⟨target', htarget, -⟩ := h.bareRef?_left hw
      rw [hv] at htarget
      cases htarget
  · intro hw
    cases hv : bareRef? v with
    | none => rfl
    | some target =>
      obtain ⟨target', htarget, -⟩ := h.bareRef?_right hv
      rw [hw] at htarget
      cases htarget

end Alike

/-! ### Documents with their references further along their chains -/

/-- A text leads further along the chain of another: to the end of it. -/
def Skips (root : Json) (t t' : String) : Prop :=
  EndsAt root (Pointer.split t) (Pointer.split t')

variable {A B : Json}

/-- **Skipping what is on the way keeps the end of every chain.** -/
theorem EndsAt.of_alike (h : Alike (Skips A) A B) {path last : List String}
    (hends : EndsAt A path last) : EndsAt B path last := by
  induction hends with
  | here hvalue hbare =>
    obtain ⟨value', hvalue', halike⟩ := h.exists_follow? hvalue
    exact .here hvalue' (halike.bareRef?_eq_none.1 hbare)
  | next hvalue hbare hrest ih =>
    obtain ⟨value', hvalue', halike⟩ := h.exists_follow? hvalue
    obtain ⟨target', hbare', rfl | hskips⟩ := halike.bareRef?_right hbare
    · exact .next hvalue' hbare' ih
    · -- the new text is the end of the old chain, where nothing bare stands in either document
      rw [hrest.unique hskips]
      obtain ⟨last, hlast, hend⟩ := hskips.exists_value
      obtain ⟨last', hlast', halike'⟩ := h.exists_follow? hlast
      exact .next hvalue' hbare' (.here hlast' (halike'.bareRef?_eq_none.1 hend))

theorem EndsAt.of_alike_left (h : Alike (Skips A) A B) {path last : List String}
    (hends : EndsAt B path last) : EndsAt A path last := by
  induction hends with
  | here hvalue hbare =>
    obtain ⟨value', hvalue', halike⟩ := h.exists_follow?_left hvalue
    exact .here hvalue' (halike.bareRef?_eq_none.2 hbare)
  | next hvalue hbare hrest ih =>
    obtain ⟨value', hvalue', halike⟩ := h.exists_follow?_left hvalue
    obtain ⟨target, hbare', rfl | hskips⟩ := halike.bareRef?_left hbare
    · exact .next hvalue' hbare' ih
    · -- the skipped part of the old chain comes to the same end
      rw [hskips.eq_of_end ih]
      exact .next hvalue' hbare' hskips

/-- The chains of both documents have the same ends. -/
theorem endsAt_iff_of_alike (h : Alike (Skips A) A B) {path last : List String} :
    EndsAt B path last ↔ EndsAt A path last :=
  ⟨.of_alike_left h, .of_alike h⟩

/-- Skipping on the way keeps the last pointer of every chain, as it is written. -/
theorem LastPointer.of_alike_left (h : Alike (LastPointer A) A B) {pointer last : String}
    (hlast : LastPointer B pointer last) : LastPointer A pointer last := by
  induction hlast with
  | here hvalue hbare =>
    obtain ⟨value', hvalue', halike⟩ := h.exists_follow?_left hvalue
    exact .here hvalue' (halike.bareRef?_eq_none.2 hbare)
  | next hvalue hbare hrest ih =>
    obtain ⟨value', hvalue', halike⟩ := h.exists_follow?_left hvalue
    obtain ⟨target, hbare', rfl | hskips⟩ := halike.bareRef?_left hbare
    · exact .next hvalue' hbare' ih
    · -- the skipped part of the old chain comes to the same end
      rw [hskips.eq_of_end ih]
      exact .next hvalue' hbare' hskips

end Bundle

namespace Pointer

/-- A change at a place is found there. -/
theorem follow?_modify {value next : Json} {path : List String} {change : Json → Json}
    (h : follow? value path = some next) :
    follow? (modify change path value) path = some (change next) := by
  induction path generalizing value with
  | nil =>
    cases h
    rfl
  | cons segment path ih =>
    obtain ⟨below, hstep, hrest⟩ := Option.bind_eq_some_iff.1 h
    have hbelow : step? (modify change (segment :: path) value) segment =
        some (modify change path below) := by
      cases value with
      | object entries =>
        rw [modify]
        rw [step?] at hstep ⊢
        clear h
        induction entries with
        | nil => cases hstep
        | cons entry rest ihrest =>
          obtain ⟨key, child⟩ := entry
          rw [Dict.get?_cons] at hstep
          rw [List.map_cons]
          split at hstep
          · next heq =>
            cases hstep
            simp [heq, Dict.get?]
          · next hne =>
            simp only [hne, if_false, Dict.get?_cons]
            exact ihrest hstep
      | array items =>
        rw [step?] at hstep
        obtain ⟨i, hi, hitem⟩ := Option.bind_eq_some_iff.1 hstep
        rw [modify, hi]
        simp only [step?, hi, Option.bind_some, List.getElem?_mapIdx, hitem, Option.map_some,
          if_true]
      | _ => cases hstep
    rw [follow?, hbelow]
    exact ih hrest

end Pointer

namespace Bundle

variable {T : String → String → Prop}

/-! ### One reference moved to the end of its chain -/

/-- Writing a related text into one of two alike objects keeps them alike. -/
theorem forall₂_insert {xs ys : Dict Json} (hkeys : xs.keys = ys.keys)
    (h : List.Forall₂ (Alike T) xs.values ys.values) {key t target : String}
    (ht : xs.get? key = some (.string t)) (hrelated : T t target) :
    List.Forall₂ (Alike T) xs.values (ys.insert key (.string target)).values := by
  induction xs generalizing ys with
  | nil => cases ht
  | cons x xs ih =>
    cases ys with
    | nil => cases hkeys
    | cons y ys =>
      obtain ⟨hkey, hrest⟩ := List.cons.inj hkeys
      cases h with
      | cons hxy h =>
        obtain ⟨k, v⟩ := x
        obtain ⟨k', v'⟩ := y
        replace hkey : k = k' := hkey
        subst hkey
        rw [Dict.get?_cons] at ht
        rw [Dict.insert]
        split
        · next heq =>
          rw [if_pos heq] at ht
          cases ht
          exact .cons (.text hrelated) h
        · next hne =>
          rw [if_neg hne] at ht
          exact .cons hxy (ih hrest h ht)

/-- Retargeting the reference of an object moves it along its chain. -/
theorem Alike.retarget {A B : Json} (h : Alike T A B) {t target : String}
    (ht : Pointer.step? A Keyword.ref = some (.string t)) (hrelated : T t target) :
    Alike T A (retarget target B) := by
  cases A with
  | object xs =>
    obtain ⟨ys, rfl, hsame, hvalues⟩ := h.object_right
    have hrel := rel_get? hsame hvalues Keyword.ref
    rw [show Dict.get? xs Keyword.ref = some (.string t) from ht] at hrel
    generalize hys : Dict.get? ys Keyword.ref = found at hrel
    cases hrel with
    | some _ =>
      exact .object (hsame.trans (Dict.keys_insert_of_get? hys _).symm)
        (forall₂_insert hsame hvalues ht hrelated)
  | array xs =>
    rw [Pointer.step?, show Pointer.index? Keyword.ref = none from by decide] at ht
    cases ht
  | _ => cases ht

/-- Objects stay alike where the value under one key is changed. -/
theorem Alike.object_change {xs ys : Dict Json} (hsame : xs.keys = ys.keys)
    (hvalues : List.Forall₂ (Alike T) xs.values ys.values) {segment : String}
    {change : Json → Json}
    (hchange : ∀ x ∈ xs, x.1 = segment → ∀ y, Alike T x.2 y → Alike T x.2 (change y)) :
    Alike T (.object xs) (.object (ys.map fun entry =>
      if entry.1 = segment then (entry.1, change entry.2) else (entry.1, entry.2))) := by
  refine .object (hsame.trans ?_) ?_
  · unfold Dict.keys
    rw [List.map_map]
    refine List.map_congr_left fun y _ => ?_
    simp only [Function.comp_apply]
    split <;> rfl
  · induction xs generalizing ys with
    | nil =>
      cases ys with
      | nil => exact .nil
      | cons y ys => cases hsame
    | cons x xs ih =>
      cases ys with
      | nil => cases hsame
      | cons y ys =>
        obtain ⟨hkey, hrest⟩ := List.cons.inj hsame
        cases hvalues with
        | cons hxy hvalues =>
          refine .cons ?_ (ih hrest hvalues fun x hx => hchange x (List.mem_cons_of_mem _ hx))
          change Alike T x.2 (if y.1 = segment then (y.1, change y.2) else (y.1, y.2)).2
          split
          · next heq => exact hchange x List.mem_cons_self (hkey.trans heq) _ hxy
          · exact hxy

/-- Arrays stay alike where one item is changed. -/
theorem Alike.array_change {xs ys : List Json} (hitems : List.Forall₂ (Alike T) xs ys) {i : Nat}
    {change : Json → Json}
    (hchange : ∀ x, xs[i]? = some x → ∀ y, Alike T x y → Alike T x (change y)) :
    Alike T (.array xs) (.array (ys.mapIdx fun j y => if j = i then change y else y)) := by
  refine .array (List.forall₂_iff_get.2 ⟨?_, fun j hj hj' => ?_⟩)
  · rw [List.length_mapIdx, hitems.length_eq]
  · have hxy := (List.forall₂_iff_get.1 hitems).2 j hj (by simpa using hj')
    simp only [List.get_eq_getElem, List.getElem_mapIdx] at hxy ⊢
    split
    · next heq =>
      subst heq
      exact hchange _ (List.getElem?_eq_getElem hj) _ hxy
    · exact hxy

/-- **Moving one reference keeps documents alike**, when its new text is related to the old one. -/
theorem Alike.modify {A B : Json} (h : Alike T A B) (hkeys : A.hasDistinctKeys = true)
    {site : List String} {t target : String}
    (hsite : Pointer.follow? A (site ++ [Keyword.ref]) = some (.string t))
    (hrelated : T t target) : Alike T A (Pointer.modify (Bundle.retarget target) site B) := by
  induction site generalizing A B with
  | nil =>
    obtain ⟨next, hstep, hnext⟩ := Option.bind_eq_some_iff.1 hsite
    cases hnext
    exact h.retarget hstep hrelated
  | cons segment site ih =>
    obtain ⟨next, hstep, hnext⟩ := Option.bind_eq_some_iff.1 hsite
    cases A with
    | object xs =>
      obtain ⟨ys, rfl, hsame, hvalues⟩ := h.object_right
      obtain ⟨hnodup, hentries⟩ := Json.hasDistinctKeys_object.1 hkeys
      rw [Pointer.modify]
      refine .object_change hsame hvalues fun x hx hkey y hxy => ?_
      -- under distinct keys only the entry that the path follows is changed
      have hvalue : x.2 = next := by
        obtain ⟨key, value⟩ := x
        cases hkey
        rw [Pointer.step?, Dict.get?_of_mem hnodup hx] at hstep
        exact Option.some.inj hstep
      rw [hvalue] at hxy ⊢
      exact ih hxy (hvalue ▸ hentries x hx) hnext
    | array xs =>
      obtain ⟨ys, rfl, hitems⟩ := h.array_right
      rw [Pointer.step?] at hstep
      obtain ⟨i, hi, hxs⟩ := Option.bind_eq_some_iff.1 hstep
      rw [Pointer.modify, hi]
      refine .array_change hitems fun x hx y hxy => ?_
      rw [hxs] at hx
      cases hx
      exact ih hxy (Pointer.hasDistinctKeys_of_step? hkeys hstep) hnext
    | _ => cases hstep

/-! ### All references moved -/

/-- Where following a chain ends well, it is at its end or goes on with a step less. -/
theorem followChain_eq_ok {root : Json} {site : Site} {limit steps : Nat} {current : String}
    {earlier : List String} {target : String}
    (h : followChain root site limit steps (current :: earlier) = .ok target) :
    ∃ value, Pointer.resolve? root current = some value ∧
      (bareRef? value = none ∧ target = current ∨ ∃ next fewer, bareRef? value = some next ∧
        steps = fewer + 1 ∧
        followChain root site limit fewer (next :: current :: earlier) = .ok target) := by
  unfold followChain at h
  split at h
  · cases h
  · next value hvalue =>
    refine ⟨value, hvalue, ?_⟩
    split at h
    · next hbare =>
      cases h
      exact Or.inl ⟨hbare, rfl⟩
    · next next hbare =>
      by_cases hseen : (current :: earlier).contains next = true
      · rw [if_pos hseen] at h
        cases h
      · rw [if_neg hseen] at h
        cases steps with
        | zero => cases h
        | succ fewer => exact Or.inr ⟨next, fewer, hbare, rfl, h⟩

/-- Following a chain with a bound on its length finds its last pointer. -/
theorem lastPointer_of_followChain {root : Json} {site : Site} {limit steps : Nat} {current : String}
    {earlier : List String} {target : String}
    (h : followChain root site limit steps (current :: earlier) = .ok target) :
    LastPointer root current target := by
  induction steps using Nat.strongRecOn generalizing current earlier with
  | _ steps ih =>
    obtain ⟨value, hvalue, ⟨hbare, rfl⟩ | ⟨next, fewer, hbare, rfl, hrest⟩⟩ := followChain_eq_ok h
    · exact .here hvalue hbare
    · exact .next hvalue hbare (ih fewer fewer.lt_succ_self hrest)

/-- The reference at a place, as the text that stands there. -/
def TextAt (root : Json) (path : List String) (t : String) : Prop :=
  Pointer.follow? root (path ++ [Keyword.ref]) = some (.string t)

/-- The reference of an object that a path leads to. -/
theorem textAt_iff {root : Json} {path : List String} {t : String} :
    TextAt root path t ↔ ∃ entries, Pointer.follow? root path = some (.object entries) ∧
      reference? entries = some t := by
  unfold TextAt reference?
  rw [Pointer.follow?_append]
  constructor
  · intro h
    obtain ⟨value, hvalue, hstep⟩ := Option.bind_eq_some_iff.1 h
    obtain ⟨next, hnext, heq⟩ := Option.bind_eq_some_iff.1 hstep
    cases heq
    cases value with
    | object entries =>
      refine ⟨entries, hvalue, ?_⟩
      rw [show Dict.get? entries Keyword.ref = some (.string t) from hnext]
      rfl
    | array items =>
      rw [Pointer.step?, show Pointer.index? Keyword.ref = none from by decide] at hnext
      cases hnext
    | _ => cases hnext
  · rintro ⟨entries, hvalue, href⟩
    obtain ⟨value, hget, hstring⟩ := Option.bind_eq_some_iff.1 href
    cases value with
    | string t' =>
      cases hstring
      rw [hvalue, Option.bind_some, Pointer.follow?, Pointer.step?, hget]
      rfl
    | _ => cases hstring

theorem TextAt.unique {root : Json} {path : List String} {t t' : String} (h : TextAt root path t)
    (h' : TextAt root path t') : t' = t := by
  have heq := h'.symm.trans h
  exact Json.string.inj (Option.some.inj heq)

/-- In a document that is alike the text of a reference is the same, or a related one. -/
theorem TextAt.right {A B : Json} {path : List String} {t : String} (h : TextAt A path t)
    (halike : Alike T A B) : ∃ t', TextAt B path t' ∧ (t' = t ∨ T t t') := by
  obtain ⟨value, hvalue, hvalues⟩ := halike.exists_follow? h
  obtain ⟨t', rfl, hrelated⟩ := hvalues.text_right
  exact ⟨t', hvalue, hrelated⟩

theorem TextAt.left {A B : Json} {path : List String} {t : String} (h : TextAt B path t)
    (halike : Alike T A B) : ∃ t', TextAt A path t' ∧ (t = t' ∨ T t' t) := by
  obtain ⟨value, hvalue, hvalues⟩ := halike.exists_follow?_left h
  obtain ⟨t', rfl, hrelated⟩ := hvalues.text_left
  exact ⟨t', hvalue, hrelated⟩

/-- **The reference at a place is collapsed to a target**: this is its text, and the last pointer of
the chain that its old text starts. -/
def CollapsedTo (A B : Json) (path : List String) (target : String) : Prop :=
  ∃ t, TextAt A path t ∧ LastPointer A t target ∧ TextAt B path target

/-- A reference is collapsed to one target. -/
theorem CollapsedTo.unique {A B C : Json} {path : List String} {target other : String}
    (h : CollapsedTo A B path target) (h' : CollapsedTo A C path other) : target = other := by
  obtain ⟨t, ht, hlast, -⟩ := h
  obtain ⟨t', ht', hlast', -⟩ := h'
  cases ht.unique ht'
  exact hlast.unique hlast'

/-- Further skipping leaves a collapsed reference as it is. -/
theorem CollapsedTo.of_alike {A B C : Json} {path : List String} {target : String}
    (h : CollapsedTo A B path target) (halike : Alike (LastPointer A) B C) :
    CollapsedTo A C path target := by
  obtain ⟨t, ht, hlast, htarget⟩ := h
  obtain ⟨t', ht', rfl | hagain⟩ := htarget.right halike
  · exact ⟨t, ht, hlast, ht'⟩
  · rw [hlast.eq_of_end hagain] at ht'
    exact ⟨t, ht, hlast, ht'⟩

/-- **One site is collapsed**: its reference is, and otherwise the document stays alike. -/
theorem of_collapseSite {A : Json} (hkeys : A.hasDistinctKeys = true) {limit : Nat} {b c : Bundle}
    {site : Site} (halike : Alike (LastPointer A) A b.schema)
    (h : collapseSite limit b site = .ok c) :
    Alike (LastPointer A) A c.schema ∧ Alike (LastPointer A) b.schema c.schema ∧
      ∃ target, CollapsedTo A c.schema (Pointer.split site.pointer) target ∧
        c = ⟨Pointer.modify (retarget target) (Pointer.split site.pointer) b.schema,
          if b.referenceTexts.contains target then b.referenceTexts
          else b.referenceTexts.insert target site.reference⟩ := by
  obtain ⟨target, htarget, hc⟩ := bind_eq_ok_iff.1 h
  cases hc
  unfold concreteTarget at htarget
  split at htarget
  · cases htarget
  · next first hfirst =>
    have htext : TextAt b.schema (Pointer.split site.pointer) first := by
      obtain ⟨value, hvalue, hstring⟩ := Option.bind_eq_some_iff.1 hfirst
      obtain ⟨node, hnode, hfield⟩ := Option.bind_eq_some_iff.1 hvalue
      obtain ⟨entries, hentries, hget⟩ := Option.bind_eq_some_iff.1 hfield
      cases node with
      | object other =>
        cases hentries
        exact textAt_iff.2 ⟨_, hnode, by rw [reference?, hget]; exact hstring⟩
      | _ => cases hentries
    -- the chain that was followed in the current bundle ends where it ends in the old one
    have hends : LastPointer A first target :=
      .of_alike_left halike (lastPointer_of_followChain htarget)
    obtain ⟨old, hold, hsame⟩ := htext.left halike
    have hskips : LastPointer A old target := by
      rcases hsame with rfl | hearlier
      · exact hends
      · rw [hearlier.eq_of_end hends]
        exact hearlier
    refine ⟨halike.modify hkeys hold hskips,
      (Alike.same b.schema).modify (halike.hasDistinctKeys hkeys) htext hends, target,
      ⟨old, hold, hskips, ?_⟩, rfl⟩
    obtain ⟨entries, hentries, -⟩ := textAt_iff.1 htext
    refine textAt_iff.2 ⟨Dict.insert entries Keyword.ref (.string target), ?_, ?_⟩
    · exact Pointer.follow?_modify hentries
    · rw [reference?, Dict.get?_insert_self]
      rfl

/-- **All sites are collapsed**: the document stays alike, and the reference at each site leads to
the last pointer of its chain. -/
theorem collapsedTo_of_foldlM {A : Json} (hkeys : A.hasDistinctKeys = true) {limit : Nat}
    {sites : List Site} {b c : Bundle} (halike : Alike (LastPointer A) A b.schema)
    (h : sites.foldlM (collapseSite limit) b = .ok c) :
    Alike (LastPointer A) A c.schema ∧
      (∀ path target, CollapsedTo A b.schema path target → CollapsedTo A c.schema path target) ∧
      ∀ site ∈ sites, ∃ target, CollapsedTo A c.schema (Pointer.split site.pointer) target := by
  induction sites generalizing b with
  | nil =>
    cases h
    exact ⟨halike, fun _ _ hpath => hpath, fun site hsite => nomatch hsite⟩
  | cons first rest ih =>
    rw [List.foldlM_cons] at h
    obtain ⟨next, hnext, hrest⟩ := bind_eq_ok_iff.1 h
    obtain ⟨hall, hstep, target, hfirst, -⟩ := of_collapseSite hkeys halike hnext
    obtain ⟨hlast, hkept, hsites⟩ := ih hall hrest
    refine ⟨hlast, fun path other hpath => hkept path other (hpath.of_alike hstep),
      fun site hsite => ?_⟩
    rcases List.mem_cons.1 hsite with rfl | hsite
    · exact ⟨target, hkept _ _ hfirst⟩
    · exact hsites site hsite

/-- **The reference at a place is settled**: its text leads to the end of the chain that its old
text starts. -/
def Settled (A B : Json) (path : List String) : Prop :=
  ∃ t t', TextAt A path t ∧ TextAt B path t' ∧ Skips A t t'

theorem CollapsedTo.settled {A B : Json} {path : List String} {target : String}
    (h : CollapsedTo A B path target) : Settled A B path := by
  obtain ⟨t, ht, hlast, htarget⟩ := h
  exact ⟨t, target, ht, htarget, hlast.endsAt⟩

/-- Collapsing settles every site. -/
theorem of_foldlM_collapseSite {A : Json} (hkeys : A.hasDistinctKeys = true) {limit : Nat}
    {sites : List Site} {b c : Bundle} (halike : Alike (LastPointer A) A b.schema)
    (h : sites.foldlM (collapseSite limit) b = .ok c) :
    Alike (LastPointer A) A c.schema ∧ Alike (Skips A) A c.schema ∧
      ∀ site ∈ sites, Settled A c.schema (Pointer.split site.pointer) := by
  obtain ⟨hlast, -, hsites⟩ := collapsedTo_of_foldlM hkeys halike h
  refine ⟨hlast, hlast.mono fun _ _ => LastPointer.endsAt, fun site hsite => ?_⟩
  obtain ⟨target, htarget⟩ := hsites site hsite
  exact htarget.settled

end Bundle
end SchemaTypings
