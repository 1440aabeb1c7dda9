import Mathlib.Algebra.Group.Nat.Defs
import Mathlib.Data.List.Forall2
import Mathlib.Logic.Basic

/-! Rust's `Result` combinators on `Except`, with the inversion lemmas that peel a
computation apart, checked addition, and panics as errors of their own. -/

/-- Why a computation does not return. -/
inductive Panic
  | indexOutOfBounds
  | expect (message : String)
  | outOfMemory
deriving DecidableEq

/-- `isize::MAX`, the bound on the size of any allocation. -/
def isizeMax : Nat := 2 ^ 63 - 1

/-- The index expression `xs[i]`. -/
def List.index {α : Type*} (xs : List α) (i : Nat) : Except Panic α :=
  match xs[i]? with
  | some x => .ok x
  | none => .error .indexOutOfBounds

theorem List.index_of_lt {α : Type*} {xs : List α} {i : Nat} (h : i < xs.length) :
    xs.index i = .ok xs[i] := by
  rw [List.index, List.getElem?_eq_getElem h]

/-- The range expression `xs[start..stop]`. -/
def List.slice {α : Type*} (xs : List α) (start stop : Nat) : Except Panic (List α) :=
  if start ≤ stop ∧ stop ≤ xs.length then .ok ((xs.drop start).take (stop - start))
  else .error .indexOutOfBounds

theorem List.slice_of_le {α : Type*} {xs : List α} {start stop : Nat} (hstart : start ≤ stop)
    (hstop : stop ≤ xs.length) :
    xs.slice start stop = .ok ((xs.drop start).take (stop - start)) :=
  if_pos ⟨hstart, hstop⟩

theorem List.slice_to_end {α : Type*} {xs : List α} {start : Nat} (h : start ≤ xs.length) :
    xs.slice start xs.length = .ok (xs.drop start) := by
  rw [List.slice_of_le h (Nat.le_refl _), ← List.length_drop, List.take_length]

/-- `Vec::push`, which aborts when the vector cannot grow. -/
def List.push {α : Type*} (xs : List α) (x : α) : Except Panic (List α) :=
  if xs.length < isizeMax then .ok (xs ++ [x]) else .error .outOfMemory

/-- `u64::checked_add`. -/
def UInt64.checkedAdd (a b : UInt64) : Option UInt64 :=
  if a.toNat + b.toNat < 2 ^ 64 then some (a + b) else none

theorem UInt64.checkedAdd_eq_some {a b c : UInt64} :
    a.checkedAdd b = some c ↔ c.toNat = a.toNat + b.toNat := by
  have hc := c.toNat_lt
  by_cases h : a.toNat + b.toNat < 2 ^ 64
  · rw [UInt64.checkedAdd, if_pos h, Option.some_inj, ← UInt64.toNat_inj, UInt64.toNat_add,
      Nat.mod_eq_of_lt h]
    exact eq_comm
  · rw [UInt64.checkedAdd, if_neg h]
    constructor
    · exact fun h => nomatch h
    · omega

theorem UInt64.min_toNat (a b : UInt64) : (min a b).toNat = min a.toNat b.toNat := by
  show (if a ≤ b then a else b).toNat = _
  by_cases h : a ≤ b
  · rw [if_pos h]
    rw [UInt64.le_iff_toNat_le] at h
    omega
  · rw [if_neg h]
    rw [UInt64.le_iff_toNat_le] at h
    omega

/-- `u64::saturating_add` of one. -/
def UInt64.saturatingSucc (n : UInt64) : UInt64 :=
  if n.toNat < 2 ^ 64 - 1 then n + 1 else n

theorem UInt64.saturatingSucc_toNat (n : UInt64) :
    n.saturatingSucc.toNat = min (n.toNat + 1) (2 ^ 64 - 1) := by
  have hn := n.toNat_lt
  by_cases h : n.toNat < 2 ^ 64 - 1
  · have hsum : (n + 1).toNat = n.toNat + 1 := by
      rw [UInt64.toNat_add]
      exact Nat.mod_eq_of_lt (Nat.succ_lt_succ h)
    rw [UInt64.saturatingSucc, if_pos h, hsum]
    omega
  · rw [UInt64.saturatingSucc, if_neg h]
    omega

/-- `u64::try_from` of a `usize`. -/
def UInt64.tryFrom (n : Nat) : Option UInt64 := if n < 2 ^ 64 then some (.ofNat n) else none

theorem UInt64.tryFrom_eq_some {n : Nat} {m : UInt64} : tryFrom n = some m ↔ m.toNat = n := by
  unfold tryFrom
  by_cases h : n < 2 ^ 64
  · rw [if_pos h, Option.some_inj, ← UInt64.toNat_inj, UInt64.toNat_ofNat_of_lt' h]
    exact eq_comm
  · rw [if_neg h]
    constructor
    · intro hnone
      cases hnone
    · intro hm
      exact absurd (hm ▸ m.toNat_lt) h

/-- `u32::try_from` of a `usize`. -/
def UInt32.tryFrom (n : Nat) : Option UInt32 := if n < 2 ^ 32 then some (.ofNat n) else none

theorem UInt32.tryFrom_eq_some {n : Nat} {m : UInt32} : tryFrom n = some m ↔ m.toNat = n := by
  unfold tryFrom
  by_cases h : n < 2 ^ 32
  · rw [if_pos h, Option.some_inj, ← UInt32.toNat_inj, UInt32.toNat_ofNat_of_lt' h]
    exact eq_comm
  · rw [if_neg h]
    constructor
    · intro hnone
      cases hnone
    · intro hm
      exact absurd (hm ▸ m.toNat_lt) h

/-- `Option::ok_or`. -/
def Option.okOr {α ε : Type*} (o : Option α) (e : ε) : Except ε α :=
  match o with
  | some a => .ok a
  | none => .error e

namespace Except
universe u
variable {ε ε' : Type*} {α β : Type u}

@[simp] theorem okOr_some (a : α) (e : ε) : (some a).okOr e = .ok a := rfl

@[simp] theorem okOr_eq_ok {o : Option α} {e : ε} {a : α} : o.okOr e = .ok a ↔ o = some a := by
  cases o <;> simp [Option.okOr]

theorem bind_eq_ok {x : Except ε α} {f : α → Except ε β} {b : β} :
    x >>= f = .ok b ↔ ∃ a, x = .ok a ∧ f a = .ok b := by
  cases x with
  | error e =>
    change Except.error e = .ok b ↔ _
    simp
  | ok a =>
    change f a = .ok b ↔ _
    simp

theorem bind_eq_error {x : Except ε α} {f : α → Except ε β} {e : ε} :
    x >>= f = .error e ↔ x = .error e ∨ ∃ a, x = .ok a ∧ f a = .error e := by
  cases x with
  | error e' =>
    change Except.error e' = .error e ↔ _
    simp
  | ok a =>
    change f a = .error e ↔ _
    simp

@[simp] theorem ok_bind (a : α) (f : α → Except ε β) : (Except.ok a >>= f) = f a := rfl
@[simp] theorem error_bind (e : ε) (f : α → Except ε β) :
    (Except.error e >>= f) = .error e := rfl

theorem map_eq_ok {x : Except ε α} {f : α → β} {b : β} :
    f <$> x = .ok b ↔ ∃ a, x = .ok a ∧ f a = b := by
  cases x with
  | error e =>
    change Except.error e = .ok b ↔ _
    simp
  | ok a =>
    change Except.ok (f a) = .ok b ↔ _
    simp

@[simp] theorem mapError_ok (f : ε → ε') (a : α) : (Except.ok a).mapError f = .ok a := rfl
@[simp] theorem mapError_error (f : ε → ε') (e : ε) :
    (Except.error e : Except ε α).mapError f = .error (f e) := rfl

@[simp] theorem mapError_eq_ok {x : Except ε α} {f : ε → ε'} {a : α} :
    x.mapError f = .ok a ↔ x = .ok a := by
  cases x <;> simp

@[simp] theorem mapError_eq_error {x : Except ε α} {f : ε → ε'} {e' : ε'} :
    x.mapError f = .error e' ↔ ∃ e, x = .error e ∧ f e = e' := by
  cases x <;> simp

theorem mapError_mapError {ε'' : Type*} (f : ε → ε') (g : ε' → ε'') (x : Except ε α) :
    (x.mapError f).mapError g = x.mapError fun e => g (f e) := by
  cases x <;> rfl

/-- Two results that agree up to their errors are the same value, or both are errors. -/
theorem of_mapError_eq {f : ε → ε'} {p : Except ε α → Except ε α → Prop}
    (hok : ∀ a, p (.ok a) (.ok a)) (herror : ∀ e e', f e = f e' → p (.error e) (.error e'))
    {x x' : Except ε α} (h : x.mapError f = x'.mapError f) : p x x' := by
  cases x with
  | ok a =>
    cases x' with
    | ok a' =>
      cases h
      exact hok a
    | error e' => cases h
  | error e =>
    cases x' with
    | ok a' => cases h
    | error e' => exact herror e e' (Except.error.inj h)

theorem toOption_eq_some {x : Except ε α} {a : α} :
    x.toOption = some a ↔ x = .ok a := by
  cases x <;> simp [Except.toOption]

/-- A list is mapped exactly when each element is. -/
theorem mapM_eq_ok {γ : Type*} {xs : List γ} {f : γ → Except ε α} {ys : List α} :
    xs.mapM f = .ok ys ↔ List.Forall₂ (fun x y => f x = .ok y) xs ys := by
  induction xs generalizing ys with
  | nil =>
    rw [List.mapM_nil, List.forall₂_nil_left_iff]
    exact ⟨fun h => (Except.ok.inj h).symm, fun h => h ▸ rfl⟩
  | cons x xs ih =>
    rw [List.mapM_cons, bind_eq_ok, List.forall₂_cons_left_iff]
    constructor
    · rintro ⟨y, hy, h⟩
      obtain ⟨rest, hrest, hpure⟩ := bind_eq_ok.mp h
      exact ⟨y, rest, hy, ih.mp hrest, (Except.ok.inj hpure).symm⟩
    · rintro ⟨y, rest, hy, hrest, rfl⟩
      refine ⟨y, hy, bind_eq_ok.mpr ⟨rest, ih.mpr hrest, rfl⟩⟩

theorem exists_of_mem_mapM {γ : Type*} {xs : List γ} {f : γ → Except ε α} {ys : List α}
    (h : xs.mapM f = .ok ys) {y : α} (hy : y ∈ ys) : ∃ x ∈ xs, f x = .ok y := by
  have hforall := mapM_eq_ok.mp h
  obtain ⟨i, hi, rfl⟩ := List.mem_iff_getElem.mp hy
  have hi' : i < xs.length := by rwa [hforall.length_eq]
  exact ⟨xs[i], List.getElem_mem hi', hforall.get hi' hi⟩

theorem eq_ok_of_mem_mapM {γ : Type*} {xs : List γ} {f : γ → Except ε α} {ys : List α}
    (h : xs.mapM f = .ok ys) {x : γ} (hx : x ∈ xs) : ∃ y ∈ ys, f x = .ok y := by
  have hforall := mapM_eq_ok.mp h
  obtain ⟨i, hi, rfl⟩ := List.mem_iff_getElem.mp hx
  have hi' : i < ys.length := by rwa [← hforall.length_eq]
  exact ⟨ys[i], List.getElem_mem hi', hforall.get hi hi'⟩

/-- An enumerated list is mapped exactly when each element is, with its position. -/
theorem mapM_zipIdx_eq_ok {γ : Type*} {xs : List γ} {f : γ × Nat → Except ε α} {ys : List α} :
    xs.zipIdx.mapM f = .ok ys ↔ ys.length = xs.length ∧
      ∀ (i : Nat) (x : γ) (y : α), xs[i]? = some x → ys[i]? = some y → f (x, i) = .ok y := by
  rw [mapM_eq_ok, List.forall₂_iff_get]
  constructor
  · rintro ⟨hlength, h⟩
    rw [List.length_zipIdx] at hlength
    refine ⟨hlength.symm, fun i x y hx hy => ?_⟩
    obtain ⟨hi, rfl⟩ := List.getElem?_eq_some_iff.mp hx
    obtain ⟨hi', rfl⟩ := List.getElem?_eq_some_iff.mp hy
    simpa using h i (by rwa [List.length_zipIdx]) hi'
  · rintro ⟨hlength, h⟩
    refine ⟨by rw [List.length_zipIdx, hlength], fun i hi hi' => ?_⟩
    rw [List.length_zipIdx] at hi
    simpa using h i _ _ (List.getElem?_eq_getElem hi) (List.getElem?_eq_getElem hi')

/-- A loop of checks passes exactly when each check passes. -/
theorem forM_eq_ok {γ : Type*} {xs : List γ} {f : γ → Except ε PUnit} :
    xs.forM f = .ok ⟨⟩ ↔ ∀ x ∈ xs, f x = .ok ⟨⟩ := by
  induction xs with
  | nil => exact iff_of_true rfl (fun _ h => absurd h List.not_mem_nil)
  | cons x xs ih =>
    rw [List.forall_mem_cons, ← ih]
    change (f x >>= fun _ => xs.forM f) = .ok ⟨⟩ ↔ _
    rw [bind_eq_ok]
    constructor
    · rintro ⟨⟨⟩, hx, hxs⟩
      exact ⟨hx, hxs⟩
    · rintro ⟨hx, hxs⟩
      exact ⟨⟨⟩, hx, hxs⟩

/-- The computation ends in a value of which `P` holds, or in an error of which `K` holds. -/
def Ends (P : α → Prop) (K : ε → Prop) : Except ε α → Prop
  | .ok a => P a
  | .error e => K e

namespace Ends
variable {P : α → Prop} {K : ε → Prop} {x : Except ε α}

theorem mono {P' : α → Prop} (hx : x.Ends P K) (himp : ∀ a, P a → P' a) :
    x.Ends P' K := by
  cases x with
  | ok a => exact himp a hx
  | error e => exact hx

theorem mono_error {K' : ε → Prop} (hx : x.Ends P K) (himp : ∀ e, K e → K' e) :
    x.Ends P K' := by
  cases x with
  | ok a => exact hx
  | error e => exact himp e hx

/-- Nothing need be known of the value but how it was computed. -/
theorem value (hx : x.Ends P K) : x.Ends (fun a => x = .ok a) K := by
  cases x with
  | ok a => rfl
  | error e => exact hx

/-- What runs next may use what holds of the value so far. -/
theorem bind {f : α → Except ε β} {P' : β → Prop} (hx : x.Ends P K)
    (hf : ∀ a, P a → (f a).Ends P' K) : (x >>= f).Ends P' K := by
  cases x with
  | ok a => exact hf a hx
  | error e => exact hx

theorem mapError {x : Except ε' α} {f : ε' → ε} (hok : ∀ a, x = .ok a → P a)
    (herror : ∀ e, x = .error e → K (f e)) : (x.mapError f).Ends P K := by
  cases x with
  | ok a => exact hok a rfl
  | error e => exact herror e rfl

theorem okOr {o : Option α} {e : ε} (hsome : ∀ a, o = some a → P a) (hnone : o = none → K e) :
    (o.okOr e).Ends P K := by
  cases o with
  | some a => exact hsome a rfl
  | none => exact hnone rfl

theorem ite {p : Prop} [Decidable p] {y : Except ε α} (hx : p → x.Ends P K)
    (hy : ¬p → y.Ends P K) : (if p then x else y).Ends P K := by
  by_cases h : p
  · rw [if_pos h]
    exact hx h
  · rw [if_neg h]
    exact hy h

theorem mapM {γ : Type*} {xs : List γ} {f : γ → Except ε α} {P : γ → α → Prop}
    (h : ∀ c ∈ xs, (f c).Ends (P c) K) :
    (xs.mapM f).Ends (List.Forall₂ P xs) K := by
  induction xs with
  | nil => exact .nil
  | cons c cs ih =>
    rw [List.mapM_cons]
    have hhead := h c (List.mem_cons_self ..)
    have htail := ih fun c hc => h c (List.mem_cons_of_mem _ hc)
    apply hhead.bind
    intro a ha
    apply htail.bind
    intro rest hrest
    exact .cons ha hrest

end Ends

end Except
