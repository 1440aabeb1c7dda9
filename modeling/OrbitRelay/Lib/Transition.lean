import Mathlib.Logic.Function.Basic
import Mathlib.Logic.Relation

/-! Transition systems: reachable states, the invariant rule, and systems that consist of
indexed processes over a shared world. -/

/-- A record that is read entry by entry, with one more entry. -/
theorem List.filterMap_snoc {α β : Type*} (f : α → Option β) (xs : List α) (x : α) :
    (xs ++ [x]).filterMap f = xs.filterMap f ++ (f x).toList := by
  rw [List.filterMap_append]
  cases hx : f x <;> simp [hx]

/-- A new entry that the reading skips. -/
theorem List.filterMap_snoc_none {α β : Type*} {f : α → Option β} (xs : List α) {x : α}
    (hx : f x = none) : (xs ++ [x]).filterMap f = xs.filterMap f := by
  rw [List.filterMap_snoc, hx, Option.toList_none, List.append_nil]

theorem Option.filterMap_toList {α β : Type*} (f : α → Option β) (x : Option α) :
    x.toList.filterMap f = (x.bind f).toList := by
  cases x with
  | none => rfl
  | some x => cases hx : f x <;> simp [hx]

namespace Transition
universe u v w

/-- Initial states and one-step moves. -/
structure System (σ : Type u) where
  init : σ → Prop
  step : σ → σ → Prop

variable {σ : Type u} {sys : System σ}

/-- The states that runs from an initial state reach. -/
inductive System.Reachable (sys : System σ) : σ → Prop
  | init {s : σ} : sys.init s → sys.Reachable s
  | step {s s' : σ} : sys.Reachable s → sys.step s s' → sys.Reachable s'

/-- What holds initially and is preserved by every step holds in every reachable state. -/
theorem System.Reachable.invariant {I : σ → Prop} (hinit : ∀ s, sys.init s → I s)
    (hstep : ∀ s s', I s → sys.step s s' → I s') {s : σ} (h : sys.Reachable s) : I s := by
  induction h with
  | init h => exact hinit _ h
  | step _ h ih => exact hstep _ _ ih h

theorem System.Reachable.trans {s s' : σ} (h : sys.Reachable s)
    (hrun : Relation.ReflTransGen sys.step s s') : sys.Reachable s' := by
  induction hrun with
  | refl => exact h
  | tail _ hstep ih => exact ih.step hstep

/-- The runs by labelled steps from a state, with the state before each step and its label. -/
inductive Run {α : Type v} (step : σ → α → Option σ) (start : σ) : List (σ × α) → σ → Prop
  | start : Run step start [] start
  | step {log : List (σ × α)} {s s' : σ} {a : α} (hrun : Run step start log s)
      (hstep : step s a = some s') : Run step start (log ++ [(s, a)]) s'

/-- What holds at the start and is preserved by every step holds along every run. -/
theorem Run.invariant {α : Type v} {step : σ → α → Option σ} {start s : σ} {log : List (σ × α)}
    {I : List (σ × α) → σ → Prop} (hstart : I [] start)
    (hstep : ∀ log s a s', I log s → step s a = some s' → I (log ++ [(s, a)]) s')
    (h : Run step start log s) : I log s := by
  induction h with
  | start => exact hstart
  | step _ h ih => exact hstep _ _ _ _ ih h

/-- Labelled steps one after the other, each taken on what the one before it left. -/
inductive Serial {α : Type v} (step : σ → α → σ → Prop) (start : σ) : List α → σ → Prop
  | start : Serial step start [] start
  | step {done : List α} {s s' : σ} {a : α} (h : Serial step start done s) (hstep : step s a s') :
      Serial step start (done ++ [a]) s'

theorem Serial.mono {α : Type v} {step step' : σ → α → σ → Prop} {start s : σ} {done : List α}
    (h : Serial step start done s) (himp : ∀ s a s', step s a s' → step' s a s') :
    Serial step' start done s := by
  induction h with
  | start => exact .start
  | step _ hstep ih => exact ih.step (himp _ _ _ hstep)

/-- Processes with local states over one shared world. -/
structure Network (ι : Type u) (W : Type v) (L : Type w) where
  world : W
  locals : ι → L

namespace Network
variable {ι : Type u} {W : Type v} {L : Type w} [DecidableEq ι]

/-- Process `i` moves to the local state and leaves the world as given. -/
def move (n : Network ι W L) (i : ι) (world : W) (local_ : L) : Network ι W L :=
  ⟨world, Function.update n.locals i local_⟩

@[simp] theorem move_world (n : Network ι W L) (i : ι) (world : W) (l : L) :
    (n.move i world l).world = world := rfl

@[simp] theorem move_locals_self (n : Network ι W L) (i : ι) (world : W) (l : L) :
    (n.move i world l).locals i = l :=
  Function.update_self ..

theorem move_locals_of_ne (n : Network ι W L) {i j : ι} (h : j ≠ i) (world : W) (l : L) :
    (n.move i world l).locals j = n.locals j :=
  Function.update_of_ne h ..

/-- A property of each process's local state survives a move if the mover establishes it
and the others keep it under the change of the world. -/
theorem forall_move {P : W → ι → L → Prop} {n : Network ι W L} {i : ι} {world : W} {l : L}
    (hself : P world i l) (hothers : ∀ j, j ≠ i → P world j (n.locals j)) (j : ι) :
    P (n.move i world l).world j ((n.move i world l).locals j) := by
  by_cases hj : j = i
  · subst hj
    simpa using hself
  · simpa [move_locals_of_ne n hj] using hothers j hj

end Network
end Transition
