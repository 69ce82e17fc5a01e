import Mathlib.Data.List.Forall2

/-! # Computations with a state

Rendering and the making of types run on a state and always end; linking may also fail.  `After`
and `Yields` say of a run of the two kinds what holds of its value and of the state behind it.
Sequences are taken apart by one equation each, lists by an invariant of the state together with an
order of states along which what was learnt of earlier values stays true.  `Rises` bundles the
three: a run keeps the invariant, goes up in the order, and brings a value.
-/
namespace SchemaTypings

universe u

variable {σ α β ε : Type u}

/-- Every value of a run over a list comes from an element. -/
theorem exists_left_of_forall₂ {R : α → β → Prop} {as : List α} {bs : List β}
    (h : List.Forall₂ R as bs) : ∀ b ∈ bs, ∃ a ∈ as, R a b := by
  induction h with
  | nil =>
    intro b hb
    cases hb
  | @cons a b as bs hab _ ih =>
    intro c hc
    rcases List.mem_cons.1 hc with rfl | hc
    · exact ⟨a, List.mem_cons_self .., hab⟩
    · obtain ⟨a', ha', hr⟩ := ih c hc
      exact ⟨a', List.mem_cons_of_mem _ ha', hr⟩

/-- A list whose elements are known one by one. -/
theorem eq_map_of_forall₂ {f : α → β} {as : List α} {bs : List β}
    (h : List.Forall₂ (fun a b => b = f a) as bs) : bs = as.map f := by
  have heq : List.Forall₂ Eq (as.map f) bs :=
    List.forall₂_map_left_iff.2 (h.imp fun _ _ => Eq.symm)
  rw [List.forall₂_eq_eq_eq] at heq
  exact heq.symm

/-- Lists whose elements are related through something in between. -/
theorem exists_between_of_forall₂ {γ : Type u} {R : α → β → Prop} {S : β → γ → Prop} {as : List α}
    {cs : List γ} (h : List.Forall₂ (fun a c => ∃ b, R a b ∧ S b c) as cs) :
    ∃ bs, List.Forall₂ R as bs ∧ List.Forall₂ S bs cs := by
  induction h with
  | nil => exact ⟨[], .nil, .nil⟩
  | cons hac _ ih =>
    obtain ⟨b, hab, hbc⟩ := hac
    obtain ⟨bs, hR, hS⟩ := ih
    exact ⟨b :: bs, .cons hab hR, .cons hbc hS⟩

/-! ### Runs that always end -/

theorem run_pure_eq (a : α) (s : σ) : (pure a : StateM σ α).run s = (a, s) := rfl

theorem run_bind_eq (x : StateM σ α) (f : α → StateM σ β) (s : σ) :
    (x >>= f).run s = (f (x.run s).1).run (x.run s).2 := rfl

theorem run_get_bind_eq (f : σ → StateM σ β) (s : σ) : (get >>= f).run s = (f s).run s := rfl

theorem length_run_mapM (f : α → StateM σ β) (as : List α) (s : σ) :
    ((as.mapM f).run s).1.length = as.length := by
  induction as generalizing s with
  | nil => rfl
  | cons a as ih => simp only [List.mapM_cons, run_bind_eq, run_pure_eq, List.length_cons, ih]

/-- What holds of the value of a run and of the state behind it. -/
def After (x : StateM σ α) (s : σ) (Q : α → σ → Prop) : Prop := Q (x.run s).1 (x.run s).2

theorem after_bind {x : StateM σ α} {f : α → StateM σ β} {s : σ} {Q : β → σ → Prop} :
    After (x >>= f) s Q ↔ After x s fun a t => After (f a) t Q := Iff.rfl

theorem after_pure {a : α} {s : σ} {Q : α → σ → Prop} :
    After (pure a : StateM σ α) s Q ↔ Q a s := Iff.rfl

theorem after_map {f : α → β} {x : StateM σ α} {s : σ} {Q : β → σ → Prop} :
    After (f <$> x) s Q ↔ After x s fun a t => Q (f a) t := Iff.rfl

theorem after_get {s : σ} {Q : σ → σ → Prop} : After (get : StateM σ σ) s Q ↔ Q s s := Iff.rfl

theorem after_modify {f : σ → σ} {s : σ} {Q : PUnit → σ → Prop} :
    After (modify f : StateM σ PUnit) s Q ↔ Q ⟨⟩ (f s) := Iff.rfl

theorem After.mono {x : StateM σ α} {s : σ} {Q R : α → σ → Prop} (h : After x s Q)
    (hqr : ∀ a t, Q a t → R a t) : After x s R := hqr _ _ h

/-- **Runs over a list.**  Where every element keeps `I`, goes up in the order `le`, and brings a
value with `Q`, which stays true on the way up, the whole list does. -/
theorem after_mapM {I : σ → Prop} {le : σ → σ → Prop} {Q : α → β → σ → Prop}
    (hrefl : ∀ s, le s s) (htrans : ∀ {s t u}, le s t → le t u → le s u)
    (hstable : ∀ {a b s t}, le s t → Q a b s → Q a b t) {f : α → StateM σ β} {as : List α}
    (hf : ∀ a ∈ as, ∀ s, I s → After (f a) s fun b t => I t ∧ le s t ∧ Q a b t) {s : σ} (hs : I s) :
    After (as.mapM f) s fun bs t => I t ∧ le s t ∧ List.Forall₂ (fun a b => Q a b t) as bs := by
  induction as generalizing s with
  | nil =>
    rw [List.mapM_nil, after_pure]
    exact ⟨hs, hrefl s, .nil⟩
  | cons a as ih =>
    rw [List.mapM_cons, after_bind]
    refine (hf a (List.mem_cons_self ..) s hs).mono fun b t ⟨ht, hst, hq⟩ => ?_
    rw [after_bind]
    refine (ih (fun a' ha' => hf a' (List.mem_cons_of_mem _ ha')) ht).mono
      fun bs u ⟨hu, htu, hall⟩ => ?_
    exact ⟨hu, htrans hst htu, .cons (hstable htu hq) hall⟩

/-- Runs over a list that keep `I` bring values with what every element says of its own. -/
theorem after_mapM_forall₂ {I : σ → Prop} {Q : α → β → Prop} {f : α → StateM σ β} {as : List α}
    (hf : ∀ a ∈ as, ∀ s, I s → After (f a) s fun b t => I t ∧ Q a b) {s : σ} (hs : I s) :
    After (as.mapM f) s fun bs t => I t ∧ List.Forall₂ Q as bs := by
  induction as generalizing s with
  | nil =>
    rw [List.mapM_nil, after_pure]
    exact ⟨hs, .nil⟩
  | cons a as ih =>
    rw [List.mapM_cons, after_bind]
    refine (hf a (List.mem_cons_self ..) s hs).mono fun b t ⟨ht, hb⟩ => ?_
    rw [after_bind]
    refine (ih (fun a' ha' => hf a' (List.mem_cons_of_mem _ ha')) ht).mono fun bs u ⟨hu, hbs⟩ => ?_
    exact after_pure.2 ⟨hu, .cons hb hbs⟩

/-- Runs over a list that keep `I` and whose values are known bring the list of these values. -/
theorem after_mapM_map {I : σ → Prop} {g : α → β} {f : α → StateM σ β} {as : List α}
    (hf : ∀ a ∈ as, ∀ s, I s → After (f a) s fun b t => I t ∧ b = g a) {s : σ} (hs : I s) :
    After (as.mapM f) s fun bs t => I t ∧ bs = as.map g :=
  (after_mapM_forall₂ hf hs).mono fun _ _ ⟨ht, hall⟩ => ⟨ht, eq_map_of_forall₂ hall⟩

/-! ### Runs up an order of states -/

/-- **A run that goes up**: it keeps `I`, goes up in the order `le`, and brings a value with `Q`. -/
def Rises (I : σ → Prop) (le : σ → σ → Prop) (x : StateM σ α) (s : σ) (Q : α → σ → Prop) : Prop :=
  After x s fun a t => I t ∧ le s t ∧ Q a t

namespace Rises

variable {I : σ → Prop} {le : σ → σ → Prop} {s : σ}

theorem pure [Std.Refl le] {a : α} {Q : α → σ → Prop} (hs : I s) (h : Q a s) :
    Rises I le (Pure.pure a) s Q := ⟨hs, refl_of le s, h⟩

theorem bind [IsTrans σ le] {x : StateM σ α} {f : α → StateM σ β} {Q : α → σ → Prop}
    {R : β → σ → Prop} (hx : Rises I le x s Q)
    (hf : ∀ a t, I t → le s t → Q a t → Rises I le (f a) t R) : Rises I le (x >>= f) s R := by
  obtain ⟨ht, hst, hq⟩ := hx
  obtain ⟨hu, htu, hr⟩ := hf _ _ ht hst hq
  exact ⟨hu, trans_of le hst htu, hr⟩

theorem mono {x : StateM σ α} {Q R : α → σ → Prop} (hx : Rises I le x s Q)
    (h : ∀ a t, le s t → Q a t → R a t) : Rises I le x s R := ⟨hx.1, hx.2.1, h _ _ hx.2.1 hx.2.2⟩

theorem map {x : StateM σ α} {f : α → β} {Q : α → σ → Prop} {R : β → σ → Prop}
    (hx : Rises I le x s Q) (h : ∀ a t, Q a t → R (f a) t) : Rises I le (f <$> x) s R :=
  ⟨hx.1, hx.2.1, h _ _ hx.2.2⟩

/-- A list of runs that go up, each of which brings a value with `Q`. -/
theorem mapM [Std.Refl le] [IsTrans σ le] {Q : α → β → σ → Prop}
    (hstable : ∀ a b t u, le t u → Q a b t → Q a b u) {f : α → StateM σ β} {as : List α}
    (hf : ∀ a ∈ as, ∀ t, I t → le s t → Rises I le (f a) t (Q a)) (hs : I s) :
    Rises I le (as.mapM f) s fun bs t => List.Forall₂ (fun a b => Q a b t) as bs := by
  have hstep : ∀ a ∈ as, ∀ t, I t ∧ le s t →
      After (f a) t fun b u => (I u ∧ le s u) ∧ le t u ∧ Q a b u := by
    intro a ha t ⟨ht, hst⟩
    obtain ⟨hu, htu, hq⟩ := hf a ha t ht hst
    exact ⟨⟨hu, trans_of le hst htu⟩, htu, hq⟩
  obtain ⟨⟨hu, -⟩, hsu, hall⟩ := after_mapM (refl_of le) (fun h h' => trans_of le h h')
    (fun {a b t u} => hstable a b t u) hstep ⟨hs, refl_of le s⟩
  exact ⟨hu, hsu, hall⟩

end Rises

/-! ### Runs that may fail -/

/-- A test that a result passes is passed by the value it brings. -/
theorem exists_ok_of_any {x : Except ε α} {p : α → Bool} (h : x.toOption.any p = true) :
    ∃ a, x = .ok a ∧ p a = true := by
  cases x with
  | error e => cases h
  | ok a => exact ⟨a, rfl, h⟩

/-- What holds of the value of a run and of the state behind it, unless the run fails. -/
def Yields (x : StateT σ (Except ε) α) (s : σ) (Q : α → σ → Prop) : Prop :=
  ∀ a t, x.run s = .ok (a, t) → Q a t

theorem yields_pure {a : α} {s : σ} {Q : α → σ → Prop} :
    Yields (pure a : StateT σ (Except ε) α) s Q ↔ Q a s := by
  constructor
  · exact fun h => h a s rfl
  · intro h b t hrun
    cases hrun
    exact h

theorem yields_bind {x : StateT σ (Except ε) α} {f : α → StateT σ (Except ε) β} {s : σ}
    {Q : β → σ → Prop} :
    Yields (x >>= f) s Q ↔ Yields x s fun a t => Yields (f a) t Q := by
  have hrun : (x >>= f).run s = x.run s >>= fun p => (f p.1).run p.2 := rfl
  constructor
  · intro h a t hx b u hf
    refine h b u ?_
    rw [hrun, hx]
    exact hf
  · intro h b u hxf
    rw [hrun] at hxf
    cases hx : x.run s with
    | error e => rw [hx] at hxf; cases hxf
    | ok p =>
      rw [hx] at hxf
      exact h p.1 p.2 hx b u hxf

theorem Yields.mono {x : StateT σ (Except ε) α} {s : σ} {Q R : α → σ → Prop} (h : Yields x s Q)
    (hqr : ∀ a t, Q a t → R a t) : Yields x s R := fun a t hrun => hqr a t (h a t hrun)

theorem yields_of_run {x : StateT σ (Except ε) α} {s t : σ} {a : α} {Q : α → σ → Prop}
    (hrun : x.run s = .ok (a, t)) (h : Q a t) : Yields x s Q := by
  intro b u hother
  rw [hrun] at hother
  cases hother
  exact h

theorem yields_throw {e : ε} {s : σ} {Q : α → σ → Prop} :
    Yields (throw e : StateT σ (Except ε) α) s Q := by
  intro a t hrun
  cases hrun

theorem yields_modify {f : σ → σ} {s : σ} {Q : PUnit → σ → Prop} :
    Yields (modify f : StateT σ (Except ε) PUnit) s Q ↔ Q ⟨⟩ (f s) :=
  ⟨fun h => h _ _ rfl, fun h a t hrun => by cases hrun; exact h⟩

theorem yields_get {s : σ} {Q : σ → σ → Prop} :
    Yields (get : StateT σ (Except ε) σ) s Q ↔ Q s s :=
  ⟨fun h => h _ _ rfl, fun h a t hrun => by cases hrun; exact h⟩

/-- Runs over a list for their effect alone keep what each of them keeps. -/
theorem yields_forM {I : σ → Prop} {f : α → StateT σ (Except ε) PUnit} {as : List α}
    (hf : ∀ a ∈ as, ∀ s, I s → Yields (f a) s fun _ t => I t) {s : σ} (hs : I s) :
    Yields (as.forM f) s fun _ t => I t := by
  induction as generalizing s with
  | nil =>
    rw [List.forM, yields_pure]
    exact hs
  | cons a as ih =>
    rw [List.forM, yields_bind]
    refine (hf a (List.mem_cons_self ..) s hs).mono fun _ t ht => ?_
    exact ih (fun a' ha' => hf a' (List.mem_cons_of_mem _ ha')) ht

/-- Runs over a list for their effect alone, where what holds depends on the elements that are
done. -/
theorem yields_forM_scan {I : List α → σ → Prop} {f : α → StateT σ (Except ε) PUnit} {as : List α}
    (hf : ∀ done a rest, as = done ++ a :: rest → ∀ s, I done s →
      Yields (f a) s fun _ t => I (done ++ [a]) t) {s : σ} (hs : I [] s) :
    Yields (as.forM f) s fun _ t => I as t := by
  have hrest : ∀ rest done, as = done ++ rest → ∀ s, I done s →
      Yields (rest.forM f) s fun _ t => I as t := by
    intro rest
    induction rest with
    | nil =>
      intro done has s hs
      rw [List.forM, yields_pure]
      rw [List.append_nil] at has
      exact has ▸ hs
    | cons a rest ih =>
      intro done has s hs
      rw [List.forM, yields_bind]
      refine (hf done a rest has s hs).mono fun _ t ht => ?_
      exact ih (done ++ [a]) (by rw [has, List.append_assoc]; rfl) t ht
  exact hrest as [] rfl s hs

/-- **Runs over a list** that may fail, by the same rule. -/
theorem yields_mapM {I : σ → Prop} {le : σ → σ → Prop} {Q : α → β → σ → Prop}
    (hrefl : ∀ s, le s s) (htrans : ∀ {s t u}, le s t → le t u → le s u)
    (hstable : ∀ {a b s t}, le s t → Q a b s → Q a b t) {f : α → StateT σ (Except ε) β}
    {as : List α} (hf : ∀ a ∈ as, ∀ s, I s → Yields (f a) s fun b t => I t ∧ le s t ∧ Q a b t)
    {s : σ} (hs : I s) :
    Yields (as.mapM f) s fun bs t => I t ∧ le s t ∧ List.Forall₂ (fun a b => Q a b t) as bs := by
  induction as generalizing s with
  | nil =>
    rw [List.mapM_nil, yields_pure]
    exact ⟨hs, hrefl s, .nil⟩
  | cons a as ih =>
    rw [List.mapM_cons, yields_bind]
    refine (hf a (List.mem_cons_self ..) s hs).mono fun b t ⟨ht, hst, hq⟩ => ?_
    rw [yields_bind]
    refine (ih (fun a' ha' => hf a' (List.mem_cons_of_mem _ ha')) ht).mono
      fun bs u ⟨hu, htu, hall⟩ => ?_
    rw [yields_pure]
    exact ⟨hu, htrans hst htu, .cons (hstable htu hq) hall⟩

/-- Runs over a list that may fail, where what holds depends on the values so far. -/
theorem yields_mapM_scan {I : List β → σ → Prop} {f : α → StateT σ (Except ε) β} {as : List α}
    (hf : ∀ a ∈ as, ∀ done s, I done s → Yields (f a) s fun b t => I (done ++ [b]) t) {s : σ}
    (hs : I [] s) : Yields (as.mapM f) s fun bs t => I bs t ∧ bs.length = as.length := by
  have hrest : ∀ rest : List α, (∀ a ∈ rest, a ∈ as) → ∀ done s, I done s →
      Yields (rest.mapM f) s fun bs t => I (done ++ bs) t ∧ bs.length = rest.length := by
    intro rest
    induction rest with
    | nil =>
      intro _ done s hs
      rw [List.mapM_nil, yields_pure, List.append_nil]
      exact ⟨hs, rfl⟩
    | cons a rest ih =>
      intro hsub done s hs
      rw [List.mapM_cons, yields_bind]
      refine (hf a (hsub a List.mem_cons_self) done s hs).mono fun b t ht => ?_
      rw [yields_bind]
      refine (ih (fun a' ha' => hsub a' (List.mem_cons_of_mem _ ha')) _ t ht).mono
        fun bs u ⟨hu, hlength⟩ => yields_pure.2 ⟨?_, by simp [hlength]⟩
      rwa [List.append_assoc] at hu
  exact hrest as (fun _ h => h) [] s hs

end SchemaTypings
