import OrbitRelay.Lib.Program

/-! Two runs of programs side by side: they pause together at requests that belong together,
and go on so under any answers that belong together. -/
namespace Pausing
variable {Q : Type} {A : Q → Type} {σ α β : Type}

/-- The pauses of two runs that belong together, and the answers that do. -/
structure Pairing (Q : Type) (A : Q → Type) (σ : Type) where
  asks : σ → Q → σ → Q → Prop
  answers : (q : Q) → A q → (q' : Q) → A q' → Prop

/-- The programs pause together and end together, with related results. -/
def Lockstep (P : Pairing Q A σ) (R : α → α → Prop) :
    Program Q A σ α → Program Q A σ α → Prop
  | .done a, .done a' => R a a'
  | .ask s q k, .ask s' q' k' =>
    P.asks s q s' q' ∧ ∀ a a', P.answers q a q' a' → Lockstep P R (k a) (k' a')
  | _, _ => False

namespace Lockstep
variable {P : Pairing Q A σ} {R : β → β → Prop}

/-- Sequences run side by side where their first parts do, and the rest does from any pair of
results of these. -/
theorem bind {R₁ : α → α → Prop} {p p' : Program Q A σ α} {f f' : α → Program Q A σ β}
    (hp : Lockstep P R₁ p p') (hf : ∀ a a', R₁ a a' → Lockstep P R (f a) (f' a')) :
    Lockstep P R (p.bind f) (p'.bind f') := by
  induction p generalizing p' with
  | done a =>
    cases p' with
    | done a' => exact hf a a' hp
    | ask s' q' k' => exact hp.elim
  | ask s q k ih =>
    cases p' with
    | done a' => exact hp.elim
    | ask s' q' k' => exact ⟨hp.1, fun a a' hanswers => ih a (hp.2 a a' hanswers)⟩

theorem ite {c : Prop} [Decidable c] {p q p' q' : Program Q A σ β}
    (hp : c → Lockstep P R p p') (hq : ¬ c → Lockstep P R q q') :
    Lockstep P R (if c then p else q) (if c then p' else q') := by
  by_cases hc : c
  · simpa [hc] using hp hc
  · simpa [hc] using hq hc

end Lockstep

/-! The program that a procedure is from a given state. -/
namespace Program

@[simp] theorem bind_done (a : α) (f : α → Program Q A σ β) :
    (done a : Program Q A σ α).bind f = f a :=
  rfl

@[simp] theorem bind_ask (s : σ) (q : Q) (k : A q → Program Q A σ α) (f : α → Program Q A σ β) :
    (ask s q k).bind f = ask s q fun a => (k a).bind f :=
  rfl

end Program

namespace Proc
variable {ε : Type} {s : σ}

@[simp] theorem pure_apply (a : α) : (pure a : Proc Q A σ α) s = .done (a, s) := rfl

@[simp] theorem bind_apply (x : Proc Q A σ α) (f : α → Proc Q A σ β) :
    (x >>= f) s = (x s).bind fun r => f r.1 r.2 :=
  rfl

@[simp] theorem get_apply : (get : Proc Q A σ σ) s = .done (s, s) := rfl

@[simp] theorem set_apply (s' : σ) : (set s' : Proc Q A σ PUnit) s = .done (⟨⟩, s') := rfl

@[simp] theorem modify_apply (f : σ → σ) :
    (modify f : Proc Q A σ PUnit) s = .done (⟨⟩, f s) :=
  rfl

theorem ite_apply {c : Prop} [Decidable c] (x y : Proc Q A σ α) :
    (if c then x else y) s = if c then x s else y s :=
  apply_ite (fun x : Proc Q A σ α => x s) c x y

/-- How a computation that may throw goes on: an error is passed on. -/
def follow (f : α → ExceptT ε (Proc Q A σ) β) : Except ε α × σ → Program Q A σ (Except ε β × σ)
  | (.ok a, s) => (f a).run s
  | (.error e, s) => .done (.error e, s)

@[simp] theorem follow_ok (f : α → ExceptT ε (Proc Q A σ) β) (a : α) :
    follow f (.ok a, s) = (f a).run s :=
  rfl

@[simp] theorem follow_error (f : α → ExceptT ε (Proc Q A σ) β) (e : ε) :
    follow f (.error e, s) = .done (.error e, s) :=
  rfl

@[simp] theorem run_bind_apply (x : ExceptT ε (Proc Q A σ) α)
    (f : α → ExceptT ε (Proc Q A σ) β) : (x >>= f).run s = (x.run s).bind (follow f) := by
  show (x.run s).bind (fun r => ExceptT.bindCont f r.1 r.2) = _
  congr 1
  funext ⟨r, s'⟩
  cases r <;> rfl

@[simp] theorem run_pure_apply (a : α) :
    (pure a : ExceptT ε (Proc Q A σ) α).run s = .done (.ok a, s) :=
  rfl

@[simp] theorem run_throw_apply (e : ε) :
    (throw e : ExceptT ε (Proc Q A σ) α).run s = .done (.error e, s) :=
  rfl

@[simp] theorem run_liftM_apply (x : Proc Q A σ α) :
    (liftM x : ExceptT ε (Proc Q A σ) α).run s = (x s).bind fun r => .done (.ok r.1, r.2) :=
  rfl

@[simp] theorem run_get_apply : (get : ExceptT ε (Proc Q A σ) σ).run s = .done (.ok s, s) := rfl

@[simp] theorem run_set_apply (s' : σ) :
    (set s' : ExceptT ε (Proc Q A σ) PUnit).run s = .done (.ok ⟨⟩, s') :=
  rfl

@[simp] theorem run_modify_apply (f : σ → σ) :
    (modify f : ExceptT ε (Proc Q A σ) PUnit).run s = .done (.ok ⟨⟩, f s) :=
  rfl

theorem run_ite_apply {c : Prop} [Decidable c] (x y : ExceptT ε (Proc Q A σ) α) :
    (if c then x else y).run s = if c then x.run s else y.run s :=
  apply_ite (fun x : ExceptT ε (Proc Q A σ) α => x.run s) c x y

end Proc
end Pausing
