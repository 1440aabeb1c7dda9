import Mathlib.Logic.Basic

/-! Programs that pause at requests. At each pause the local state can be seen and the
environment answers; between two pauses the program runs alone. A contract says which
answers may come and what the program promises at its pauses. -/
namespace Pausing

/-- One request, with the local state that asked it and the answer it got. -/
structure Exchange (Q : Type) (A : Q → Type) (σ : Type) where
  state : σ
  request : Q
  answer : A request

/-- A computation up to its next request, which shows the local state. -/
inductive Program (Q : Type) (A : Q → Type) (σ α : Type)
  | done (a : α)
  | ask (s : σ) (q : Q) (k : A q → Program Q A σ α)

variable {Q : Type} {A : Q → Type} {σ α β : Type}

/-- The exchanges and the result, where every request has one answer. -/
def Program.run (answers : (q : Q) → A q) : Program Q A σ α → List (Exchange Q A σ) × α
  | .done a => ([], a)
  | .ask s q k =>
    let (h, a) := (k (answers q)).run answers
    (⟨s, q, answers q⟩ :: h, a)

def Program.bind (p : Program Q A σ α) (f : α → Program Q A σ β) : Program Q A σ β :=
  match p with
  | done a => f a
  | ask s q k => ask s q fun a => (k a).bind f

theorem Program.run_bind (answers : (q : Q) → A q) (p : Program Q A σ α)
    (f : α → Program Q A σ β) :
    ((p.bind f).run answers).2 = ((f (p.run answers).2).run answers).2 := by
  induction p with
  | done a => rfl
  | ask s q k ih => exact ih (answers q)

/-- A procedure over the local state. -/
def Proc (Q : Type) (A : Q → Type) (σ α : Type) := σ → Program Q A σ (α × σ)

namespace Proc

instance : Monad (Proc Q A σ) where
  pure a := fun s => .done (a, s)
  bind x f := fun s => (x s).bind fun r => f r.1 r.2

instance : MonadStateOf σ (Proc Q A σ) where
  get := fun s => .done (s, s)
  set s := fun _ => .done ((), s)
  modifyGet f := fun s => .done (f s)

/-- Asks the environment and returns its answer. -/
def request (q : Q) : Proc Q A σ (A q) := fun s => .ask s q fun a => .done (a, s)

/-- A result that was computed without a request. -/
def ofExcept {ε : Type} (x : Except ε α) : ExceptT ε (Proc Q A σ) α := ExceptT.mk (pure x)

/-- The result where every request has one answer. -/
def result (answers : (q : Q) → A q) (x : Proc Q A σ α) (s : σ) : α := ((x s).run answers).2.1

end Proc

/-! The result of a procedure without a local state, where every request has one answer. -/
namespace Proc
variable {ε : Type} {answers : (q : Q) → A q}

theorem result_run_ofExcept (x : Except ε α) :
    (ofExcept x : ExceptT ε (Proc Q A Unit) α).run.result answers () = x := rfl

theorem result_run_pure (a : α) :
    (pure a : ExceptT ε (Proc Q A Unit) α).run.result answers () = .ok a := rfl

theorem result_run_bind (x : ExceptT ε (Proc Q A Unit) α)
    (f : α → ExceptT ε (Proc Q A Unit) β) :
    (x >>= f).run.result answers () =
      x.run.result answers () >>= fun a => (f a).run.result answers () := by
  have hrun := Program.run_bind answers (x.run ()) fun r => ExceptT.bindCont f r.1 r.2
  unfold result
  show (((x.run ()).bind fun r => ExceptT.bindCont f r.1 r.2).run answers).2.1 = _
  rw [hrun]
  cases ((x.run ()).run answers).2.1 <;> rfl

theorem result_run_liftM (x : Proc Q A Unit α) :
    (liftM x : ExceptT ε (Proc Q A Unit) α).run.result answers () =
      .ok (x.result answers ()) :=
  congrArg Prod.fst (Program.run_bind answers (x ()) _)

end Proc

/-- What the environment keeps to when it answers, and what the program promises when it asks,
both given the exchanges so far. -/
structure Contract (Q : Type) (A : Q → Type) (σ : Type) where
  rely : List (Exchange Q A σ) → σ → (q : Q) → A q → Prop
  guarantee : List (Exchange Q A σ) → σ → Q → Prop

namespace Contract

/-- Any answer may come; only requests of the kind `K` are asked for. -/
def within (K : σ → Q → Prop) : Contract Q A σ := ⟨fun _ _ _ _ => True, fun _ => K⟩

/-- Every request has one answer. -/
def answering (answers : (q : Q) → A q) : Contract Q A σ :=
  ⟨fun _ _ q a => a = answers q, fun _ _ _ => True⟩

variable (c : Contract Q A σ)

/-- Every pause of the program keeps the promise, and its end satisfies `post`. -/
def Holds (post : List (Exchange Q A σ) → α → Prop) :
    List (Exchange Q A σ) → Program Q A σ α → Prop
  | h, .done a => post h a
  | h, .ask s q k => c.guarantee h s q ∧ ∀ a, c.rely h s q a → Holds post (h ++ [⟨s, q, a⟩]) (k a)

/-- Every exchange of the history kept the promise. -/
def Kept (h : List (Exchange Q A σ)) : Prop :=
  ∀ before e after, h = before ++ e :: after → c.guarantee before e.state e.request

variable {c} {h : List (Exchange Q A σ)}

theorem Kept.nil : c.Kept [] := by
  intro before e after heq
  cases before <;> cases heq

theorem Kept.snoc {s : σ} {q : Q} (hkept : c.Kept h) (hpromise : c.guarantee h s q) (a : A q) :
    c.Kept (h ++ [⟨s, q, a⟩]) := by
  intro before e after heq
  rcases List.eq_nil_or_concat after with rfl | ⟨front, last, rfl⟩
  · obtain ⟨rfl, hlast⟩ := List.append_inj' heq rfl
    cases hlast
    exact hpromise
  · rw [List.concat_eq_append, ← List.cons_append, ← List.append_assoc] at heq
    exact hkept before e front (List.append_inj' heq rfl).1

theorem Holds.mono {post post' : List (Exchange Q A σ) → α → Prop}
    (himp : ∀ h a, post h a → post' h a) {p : Program Q A σ α} (hp : c.Holds post h p) :
    c.Holds post' h p := by
  induction p generalizing h with
  | done a => exact himp h a hp
  | ask s q k ih => exact ⟨hp.1, fun a hrely => ih a (hp.2 a hrely)⟩

theorem holds_bind {post : List (Exchange Q A σ) → β → Prop} {p : Program Q A σ α}
    {f : α → Program Q A σ β} :
    c.Holds post h (p.bind f) ↔ c.Holds (fun h a => c.Holds post h (f a)) h p := by
  induction p generalizing h with
  | done a => exact Iff.rfl
  | ask s q k ih =>
    exact and_congr_right fun _ => forall_congr' fun a => imp_congr_right fun _ => ih a

/-- Under fixed answers there is one run. -/
theorem holds_answering {answers : (q : Q) → A q} {post : List (Exchange Q A σ) → α → Prop}
    {p : Program Q A σ α} : (answering answers).Holds post h p ↔
      post (h ++ (p.run answers).1) (p.run answers).2 := by
  induction p generalizing h with
  | done a => simp [Holds, Program.run]
  | ask s q k ih =>
    have hrun : h ++ ((Program.ask s q k).run answers).1 =
        h ++ [⟨s, q, answers q⟩] ++ ((k (answers q)).run answers).1 := by
      simp [Program.run]
    show True ∧ (∀ a, a = answers q → (answering answers).Holds post _ (k a)) ↔ _
    rw [true_and, forall_eq, ih, hrun]
    rfl

end Contract

/-- The procedure keeps the contract from this history and state and ends in `post`. -/
def Proc.wp (c : Contract Q A σ) (x : Proc Q A σ α)
    (post : α → List (Exchange Q A σ) → σ → Prop) (h : List (Exchange Q A σ)) (s : σ) : Prop :=
  c.Holds (fun h r => post r.1 h r.2) h (x s)

namespace Proc
variable {c : Contract Q A σ} {h : List (Exchange Q A σ)} {s : σ}

theorem wp_mono {x : Proc Q A σ α} {post post' : α → List (Exchange Q A σ) → σ → Prop}
    (hx : x.wp c post h s) (himp : ∀ a h s, post a h s → post' a h s) : x.wp c post' h s :=
  Contract.Holds.mono (fun h (r : α × σ) => himp r.1 h r.2) hx

@[simp] theorem wp_pure (a : α) (post : α → List (Exchange Q A σ) → σ → Prop) :
    (pure a : Proc Q A σ α).wp c post h s ↔ post a h s :=
  Iff.rfl

@[simp] theorem wp_bind (x : Proc Q A σ α) (f : α → Proc Q A σ β)
    (post : β → List (Exchange Q A σ) → σ → Prop) :
    (x >>= f).wp c post h s ↔ x.wp c (fun a h s => (f a).wp c post h s) h s :=
  Contract.holds_bind

@[simp] theorem wp_get (post : σ → List (Exchange Q A σ) → σ → Prop) :
    (get : Proc Q A σ σ).wp c post h s ↔ post s h s :=
  Iff.rfl

@[simp] theorem wp_set (s' : σ) (post : PUnit → List (Exchange Q A σ) → σ → Prop) :
    (set s' : Proc Q A σ PUnit).wp c post h s ↔ post ⟨⟩ h s' :=
  Iff.rfl

@[simp] theorem wp_modify (f : σ → σ) (post : PUnit → List (Exchange Q A σ) → σ → Prop) :
    (modify f : Proc Q A σ PUnit).wp c post h s ↔ post ⟨⟩ h (f s) :=
  Iff.rfl

@[simp] theorem wp_request (q : Q) (post : A q → List (Exchange Q A σ) → σ → Prop) :
    (request q : Proc Q A σ (A q)).wp c post h s ↔
      c.guarantee h s q ∧ ∀ a, c.rely h s q a → post a (h ++ [⟨s, q, a⟩]) s :=
  Iff.rfl

@[simp] theorem wp_run_pure {ε : Type} (a : α)
    (post : Except ε α → List (Exchange Q A σ) → σ → Prop) :
    (pure a : ExceptT ε (Proc Q A σ) α).run.wp c post h s ↔ post (.ok a) h s :=
  Iff.rfl

@[simp] theorem wp_run_throw {ε : Type} (e : ε)
    (post : Except ε α → List (Exchange Q A σ) → σ → Prop) :
    (throw e : ExceptT ε (Proc Q A σ) α).run.wp c post h s ↔ post (.error e) h s :=
  Iff.rfl

@[simp] theorem wp_run_ofExcept {ε : Type} (x : Except ε α)
    (post : Except ε α → List (Exchange Q A σ) → σ → Prop) :
    (ofExcept x : ExceptT ε (Proc Q A σ) α).run.wp c post h s ↔ post x h s :=
  Iff.rfl

/-- What follows a computation that may throw: an error is passed on. -/
def afterResult {ε : Type} (c : Contract Q A σ) (f : α → ExceptT ε (Proc Q A σ) β)
    (post : Except ε β → List (Exchange Q A σ) → σ → Prop) :
    Except ε α → List (Exchange Q A σ) → σ → Prop
  | .ok a => (f a).run.wp c post
  | .error e => post (.error e)

@[simp] theorem afterResult_ok {ε : Type} (f : α → ExceptT ε (Proc Q A σ) β)
    (post : Except ε β → List (Exchange Q A σ) → σ → Prop) (a : α) :
    afterResult c f post (.ok a) h s ↔ (f a).run.wp c post h s :=
  Iff.rfl

@[simp] theorem afterResult_error {ε : Type} (f : α → ExceptT ε (Proc Q A σ) β)
    (post : Except ε β → List (Exchange Q A σ) → σ → Prop) (e : ε) :
    afterResult c f post (.error e) h s ↔ post (.error e) h s :=
  Iff.rfl

@[simp] theorem wp_run_bind {ε : Type} (x : ExceptT ε (Proc Q A σ) α)
    (f : α → ExceptT ε (Proc Q A σ) β)
    (post : Except ε β → List (Exchange Q A σ) → σ → Prop) :
    (x >>= f).run.wp c post h s ↔ x.run.wp c (afterResult c f post) h s := by
  refine (wp_bind x.run _ post).trans ?_
  refine iff_of_eq (congrArg (fun after => x.run.wp c after h s) ?_)
  funext r
  cases r <;> rfl

@[simp] theorem wp_run_liftM {ε : Type} (x : Proc Q A σ α)
    (post : Except ε α → List (Exchange Q A σ) → σ → Prop) :
    (liftM x : ExceptT ε (Proc Q A σ) α).run.wp c post h s ↔ x.wp c (fun a => post (.ok a)) h s :=
  wp_bind x _ post

@[simp] theorem wp_run_get {ε : Type} (post : Except ε σ → List (Exchange Q A σ) → σ → Prop) :
    (get : ExceptT ε (Proc Q A σ) σ).run.wp c post h s ↔ post (.ok s) h s :=
  Iff.rfl

@[simp] theorem wp_run_set {ε : Type} (s' : σ)
    (post : Except ε PUnit → List (Exchange Q A σ) → σ → Prop) :
    (set s' : ExceptT ε (Proc Q A σ) PUnit).run.wp c post h s ↔ post (.ok ⟨⟩) h s' :=
  Iff.rfl

@[simp] theorem wp_run_modify {ε : Type} (f : σ → σ)
    (post : Except ε PUnit → List (Exchange Q A σ) → σ → Prop) :
    (modify f : ExceptT ε (Proc Q A σ) PUnit).run.wp c post h s ↔ post (.ok ⟨⟩) h (f s) :=
  Iff.rfl

/-- A procedure that keeps one contract keeps another, under related histories, where the other
relies on as much and promises no more. -/
theorem wp_transfer {c c' : Contract Q A σ}
    {R : List (Exchange Q A σ) → List (Exchange Q A σ) → Prop}
    {post post' : α → List (Exchange Q A σ) → σ → Prop} {h h' : List (Exchange Q A σ)}
    (hask : ∀ h h' s q, R h h' → c.guarantee h s q → c'.guarantee h' s q ∧
      ∀ a, c'.rely h' s q a → c.rely h s q a ∧ R (h ++ [⟨s, q, a⟩]) (h' ++ [⟨s, q, a⟩]))
    (hpost : ∀ a h h' s, R h h' → post a h s → post' a h' s) (hR : R h h') {x : Proc Q A σ α}
    (hx : x.wp c post h s) : x.wp c' post' h' s := by
  unfold wp at hx ⊢
  generalize x s = p at hx ⊢
  induction p generalizing h h' with
  | done r => exact hpost r.1 h h' r.2 hR hx
  | ask s q k ih =>
    obtain ⟨hpromise, hnext⟩ := hask h h' s q hR hx.1
    refine ⟨hpromise, fun a hrely => ?_⟩
    obtain ⟨hrely', hR'⟩ := hnext a hrely
    exact ih a hR' (hx.2 a hrely')

theorem wp_within_mono {K K' : σ → Q → Prop} {x : Proc Q A σ α}
    {post : α → List (Exchange Q A σ) → σ → Prop} (hx : x.wp (.within K) post h s)
    (himp : ∀ s q, K s q → K' s q) : x.wp (.within K') post h s := by
  refine wp_transfer (R := Eq) (fun h h' s q heq hq => ?_) (fun a h h' s heq hpost => ?_) rfl hx
  · exact ⟨himp s q hq, fun a _ => ⟨trivial, by rw [heq]⟩⟩
  · exact heq ▸ hpost

/-- What every request of the kind `K` preserves, a procedure that asks for nothing else
preserves. -/
theorem wp_carry {K : σ → Q → Prop} {I : List (Exchange Q A σ) → Prop} {post : α → σ → Prop}
    {x : Proc Q A σ α} (hx : x.wp (.within K) (fun a _ s => post a s) h s)
    (hpromise : ∀ h s q, I h → K s q → c.guarantee h s q)
    (hexchange : ∀ h s q a, I h → K s q → c.rely h s q a → I (h ++ [⟨s, q, a⟩])) (hI : I h) :
    x.wp c (fun a h s => I h ∧ post a s) h s := by
  refine wp_transfer (R := fun _ h' => I h') (fun _ h' s q hI hq => ?_)
    (fun _ _ _ _ hI hpost => ⟨hI, hpost⟩) hI hx
  exact ⟨hpromise h' s q hI hq, fun a hrely => ⟨trivial, hexchange h' s q a hI hq hrely⟩⟩

theorem wp_run_ite {ε : Type} {p : Prop} [Decidable p] (x y : ExceptT ε (Proc Q A σ) α)
    (post : Except ε α → List (Exchange Q A σ) → σ → Prop) :
    (if p then x else y).run.wp c post h s ↔
      (p → x.run.wp c post h s) ∧ (¬ p → y.run.wp c post h s) := by
  by_cases hp : p <;> simp [hp]

theorem wp_ite {p : Prop} [Decidable p] (x y : Proc Q A σ α)
    (post : α → List (Exchange Q A σ) → σ → Prop) :
    (if p then x else y).wp c post h s ↔
      (p → x.wp c post h s) ∧ (¬ p → y.wp c post h s) := by
  by_cases hp : p <;> simp [hp]

end Proc
end Pausing
