import SchemaTypings.Error
import SchemaTypings.Proofs.Stateful

/-! # Runs side by side

Two runs can be compared step by step without knowing what either does.  `RunsAs` says of runs that
may fail that the second succeeds as the first does, wherever that does.  `Matches` relates two runs
that always end: from related states they bring related values, and leave related states behind.
-/
namespace SchemaTypings

variable {σ τ α β γ δ ε : Type}

/-! ### What one result says of another -/

/-- **`y` succeeds as `x` does**, wherever `x` succeeds. -/
def SucceedsAs (x y : Except ε α) : Prop := ∀ a, x = .ok a → y = .ok a

namespace SucceedsAs

theorem refl (x : Except ε α) : SucceedsAs x x := fun _ h => h

theorem error (e : ε) (y : Except ε α) : SucceedsAs (.error e) y := fun _ h => nomatch h

theorem bind {x y : Except ε α} {f h : α → Except ε β} (hxy : SucceedsAs x y)
    (hfh : ∀ a, SucceedsAs (f a) (h a)) : SucceedsAs (x >>= f) (y >>= h) := by
  intro b hb
  obtain ⟨a, hx, hf⟩ := bind_eq_ok_iff.1 hb
  exact bind_eq_ok_iff.2 ⟨a, hxy a hx, hfh a b hf⟩

theorem foldlM {f h : β → α → Except ε β} (hfh : ∀ b a, SucceedsAs (f b a) (h b a))
    (as : List α) (b : β) : SucceedsAs (as.foldlM f b) (as.foldlM h b) := by
  induction as generalizing b with
  | nil => exact .refl _
  | cons a as ih =>
    rw [List.foldlM_cons, List.foldlM_cons]
    exact (hfh b a).bind ih

end SucceedsAs

/-! ### Runs that may fail -/

/-- **The run `y` succeeds as `x` does**, from every state from which `x` succeeds. -/
def RunsAs (x y : StateT σ (Except ε) α) : Prop := ∀ s, SucceedsAs (x.run s) (y.run s)

namespace RunsAs

theorem refl (x : StateT σ (Except ε) α) : RunsAs x x := fun s => .refl (x.run s)

theorem throw (e : ε) (y : StateT σ (Except ε) α) : RunsAs (MonadExcept.throw e) y :=
  fun s => .error e (y.run s)

theorem bind {x y : StateT σ (Except ε) α} {f h : α → StateT σ (Except ε) β} (hxy : RunsAs x y)
    (hfh : ∀ a, RunsAs (f a) (h a)) : RunsAs (x >>= f) (y >>= h) :=
  fun s => (hxy s).bind fun p => hfh p.1 p.2

/-- The same first step. -/
theorem bind_right (x : StateT σ (Except ε) α) {f h : α → StateT σ (Except ε) β}
    (hfh : ∀ a, RunsAs (f a) (h a)) : RunsAs (x >>= f) (x >>= h) := (refl x).bind hfh

/-- The same last step. -/
theorem bind_left {x y : StateT σ (Except ε) α} (hxy : RunsAs x y)
    (f : α → StateT σ (Except ε) β) : RunsAs (x >>= f) (y >>= f) := hxy.bind fun a => refl (f a)

theorem mapM {f h : α → StateT σ (Except ε) β} (hfh : ∀ a, RunsAs (f a) (h a)) (as : List α) :
    RunsAs (as.mapM f) (as.mapM h) := by
  induction as with
  | nil => exact refl _
  | cons a as ih =>
    rw [List.mapM_cons, List.mapM_cons]
    exact (hfh a).bind fun _ => ih.bind_left _

theorem forM {f h : α → StateT σ (Except ε) PUnit} (hfh : ∀ a, RunsAs (f a) (h a))
    (as : List α) : RunsAs (as.forM f) (as.forM h) := by
  induction as with
  | nil => exact refl _
  | cons a as ih =>
    rw [List.forM, List.forM]
    exact (hfh a).bind fun _ => ih

end RunsAs

/-! ### Runs that always end -/

/-- **Matching runs**: from states that `R` relates they bring values that `Q` relates, and leave
states behind that `R` relates. -/
def Matches (R : σ → τ → Prop) (x : StateM σ α) (y : StateM τ β) (Q : α → β → Prop) : Prop :=
  ∀ s t, R s t → Q (x.run s).1 (y.run t).1 ∧ R (x.run s).2 (y.run t).2

namespace Matches

variable {R : σ → τ → Prop} {x : StateM σ α} {y : StateM τ β} {P Q : α → β → Prop}
  {S : γ → δ → Prop}

theorem pure {a : α} {b : β} (h : Q a b) : Matches R (Pure.pure a) (Pure.pure b) Q :=
  fun _ _ hst => ⟨h, hst⟩

theorem bind {f : α → StateM σ γ} {h : β → StateM τ δ} (hxy : Matches R x y P)
    (hfh : ∀ a b, P a b → Matches R (f a) (h b) S) : Matches R (x >>= f) (y >>= h) S := by
  intro s t hst
  obtain ⟨hp, hrest⟩ := hxy s t hst
  exact hfh _ _ hp _ _ hrest

/-- Matching runs that begin with a value that both bring. -/
theorem bind_eq {y : StateM τ α} {f : α → StateM σ γ} {h : α → StateM τ δ} (hxy : Matches R x y Eq)
    (hfh : ∀ a, Matches R (f a) (h a) S) : Matches R (x >>= f) (y >>= h) S :=
  hxy.bind fun a _ hab => hab ▸ hfh a

theorem get : Matches R MonadState.get MonadState.get R := fun _ _ hst => ⟨hst, hst⟩

theorem modify {f : σ → σ} {h : τ → τ} (hfh : ∀ s t, R s t → R (f s) (h t)) :
    Matches R (modifyThe σ f) (modifyThe τ h) Eq := fun s t hst => ⟨rfl, hfh s t hst⟩

theorem mono (hxy : Matches R x y P) (h : ∀ a b, P a b → Q a b) : Matches R x y Q :=
  fun s t hst => (hxy s t hst).imp_left (h _ _)

theorem map {f : α → γ} {h : β → δ} (hxy : Matches R x y P) (hfh : ∀ a b, P a b → S (f a) (h b)) :
    Matches R (f <$> x) (h <$> y) S :=
  fun s t hst => (hxy s t hst).imp_left (hfh _ _)

/-- Runs over one list bring lists whose elements are related. -/
theorem mapM {f : γ → StateM σ α} {h : γ → StateM τ β} {as : List γ}
    (hfh : ∀ a ∈ as, Matches R (f a) (h a) Q) :
    Matches R (as.mapM f) (as.mapM h) (List.Forall₂ Q) := by
  induction as with
  | nil => exact pure .nil
  | cons a as ih =>
    rw [List.mapM_cons, List.mapM_cons]
    refine (hfh a List.mem_cons_self).bind fun b c hbc => ?_
    refine (ih fun a' ha' => hfh a' (List.mem_cons_of_mem _ ha')).bind fun bs cs hall => ?_
    exact pure (.cons hbc hall)

end Matches

/-- Runs over one list whose steps bring equal values bring equal lists. -/
theorem Matches.mapM_eq {R : σ → τ → Prop} {f : γ → StateM σ α} {h : γ → StateM τ α}
    {as : List γ} (hfh : ∀ a ∈ as, Matches R (f a) (h a) Eq) :
    Matches R (as.mapM f) (as.mapM h) Eq := by
  refine (Matches.mapM hfh).mono fun bs cs hall => ?_
  rwa [List.forall₂_eq_eq_eq] at hall

end SchemaTypings
